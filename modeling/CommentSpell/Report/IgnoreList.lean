import CommentSpell.Report.Diagnostic
import CommentSpell.Sorting

/-!
# Ignored words

The words that the user chose not to be told about.  An `IgnoreList` only grows, holds no word twice and
never holds the empty word; it has no order of its own and is shown sorted.  A host may send a diagnostic
where a word is expected; the list then holds the diagnostic itself, which is no word and so excuses none.
-/

namespace CommentSpell

/-- What `IgnoreList.add` puts on a list: a word, or a diagnostic that stands in its place. -/
inductive Ignorable where
  | word (word : Text)
  | diagnostic (diagnostic : Diagnostic)
deriving DecidableEq

/-- A set of non-empty words `words`, with the set `diagnostics` of what was ignored in place of a word. -/
structure IgnoreList where
  words : List Text
  diagnostics : List Diagnostic := []
  nodup : words.Nodup := by simp
  nil_not_mem : [] ∉ words := by simp
  nodup_diagnostics : diagnostics.Nodup := by simp

namespace IgnoreList

instance : EmptyCollection IgnoreList := ⟨{ words := [] }⟩

instance : Inhabited IgnoreList := ⟨∅⟩

instance : Membership Text IgnoreList where
  mem list word := word ∈ list.words

instance (word : Text) (list : IgnoreList) : Decidable (word ∈ list) :=
  inferInstanceAs (Decidable (word ∈ list.words))

/-- `list.insert word` is `list` with `word` added, or `list` itself if `word` is empty or on it already. -/
def insert (list : IgnoreList) (word : Text) : IgnoreList :=
  if h : word ≠ [] ∧ word ∉ list.words then
    { list with
      words := word :: list.words
      nodup := List.nodup_cons.2 ⟨h.2, list.nodup⟩
      nil_not_mem := by simpa using ⟨h.1, list.nil_not_mem⟩ }
  else list

/-- `list.insertDiagnostic diagnostic` is `list` with `diagnostic` added in place of a word. -/
def insertDiagnostic (list : IgnoreList) (diagnostic : Diagnostic) : IgnoreList :=
  if h : diagnostic ∉ list.diagnostics then
    { list with
      diagnostics := diagnostic :: list.diagnostics
      nodup_diagnostics := List.nodup_cons.2 ⟨h, list.nodup_diagnostics⟩ }
  else list

/-- `list.isNew word` iff `list.insert word` differs from `list`. -/
def isNew (list : IgnoreList) (word : Text) : Bool :=
  word ≠ [] && word ∉ list

/-- `list.add item` is `list` with the word or the diagnostic that `item` is. -/
def add (list : IgnoreList) : Ignorable → IgnoreList
  | .word word => list.insert word
  | .diagnostic diagnostic => list.insertDiagnostic diagnostic

/-- `list.lacks item` iff `list.add item` differs from `list`. -/
def lacks (list : IgnoreList) : Ignorable → Bool
  | .word word => list.isNew word
  | .diagnostic diagnostic => diagnostic ∉ list.diagnostics

/-- `list.insertAll words` is `list` with each of `words` inserted, one after the other. -/
def insertAll (list : IgnoreList) (words : List Text) : IgnoreList :=
  words.foldl insert list

/-- `list.size` is the number of words of `list`, and of diagnostics in place of words. -/
def size (list : IgnoreList) : Nat :=
  list.words.length + list.diagnostics.length

/-- `ofList words` is the list of `words`. -/
def ofList (words : List Text) : IgnoreList :=
  (∅ : IgnoreList).insertAll words

/-- `list.toSortedList` are the words of `list` in ascending order. -/
def toSortedList (list : IgnoreList) : List Text :=
  sortBy (fun a b => a ≤ b) list.words

/-- `list.describe` is a short description of `list`, which tells its size. -/
def describe (list : IgnoreList) : String :=
  s!"IgnoreStore({list.size} words)"

/-! ### Membership -/

@[simp] theorem not_mem_empty (word : Text) : word ∉ (∅ : IgnoreList) :=
  List.not_mem_nil

@[simp] theorem nil_not_mem_list (list : IgnoreList) : [] ∉ list :=
  list.nil_not_mem

theorem mem_insert {list : IgnoreList} {word other : Text} :
    other ∈ list.insert word ↔ other ∈ list ∨ (other = word ∧ word ≠ []) := by
  show other ∈ (list.insert word).words ↔ other ∈ list.words ∨ (other = word ∧ word ≠ [])
  unfold insert
  split
  next h => grind
  next h => grind

theorem mem_insertAll {list : IgnoreList} {words : List Text} {other : Text} :
    other ∈ list.insertAll words ↔ other ∈ list ∨ (other ∈ words ∧ other ≠ []) := by
  induction words generalizing list with
  | nil => simp [insertAll]
  | cons word words ih =>
    have step : list.insertAll (word :: words) = (list.insert word).insertAll words := rfl
    rw [step, ih, mem_insert]
    grind

/-! ### Lists that grow -/

/-- `list ⊆ other` iff `other` has all words of `list`, and all its diagnostics. -/
instance : HasSubset IgnoreList where
  Subset list other :=
    (∀ word ∈ list, word ∈ other) ∧ ∀ diagnostic ∈ list.diagnostics, diagnostic ∈ other.diagnostics

theorem subset_refl (list : IgnoreList) : list ⊆ list :=
  ⟨fun _ => id, fun _ => id⟩

theorem subset_trans {a b c : IgnoreList} (hab : a ⊆ b) (hbc : b ⊆ c) : a ⊆ c :=
  ⟨fun word hmem => hbc.1 word (hab.1 word hmem),
    fun diagnostic hmem => hbc.2 diagnostic (hab.2 diagnostic hmem)⟩

theorem subset_insert (list : IgnoreList) (word : Text) : list ⊆ list.insert word := by
  refine ⟨fun other hmem => mem_insert.mpr (Or.inl hmem), fun diagnostic hmem => ?_⟩
  unfold insert
  split
  · exact hmem
  · exact hmem

theorem subset_insertDiagnostic (list : IgnoreList) (diagnostic : Diagnostic) :
    list ⊆ list.insertDiagnostic diagnostic := by
  unfold insertDiagnostic
  split
  · exact ⟨fun _ => id, fun other hmem => List.mem_cons_of_mem _ hmem⟩
  · exact list.subset_refl

theorem subset_add (list : IgnoreList) (item : Ignorable) : list ⊆ list.add item := by
  cases item with
  | word word => exact list.subset_insert word
  | diagnostic diagnostic => exact list.subset_insertDiagnostic diagnostic

theorem subset_insertAll (list : IgnoreList) (words : List Text) : list ⊆ list.insertAll words := by
  induction words generalizing list with
  | nil => exact list.subset_refl
  | cons word words ih => exact subset_trans (list.subset_insert word) (ih (list.insert word))

end IgnoreList

end CommentSpell
