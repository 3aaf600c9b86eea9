import CommentSpell.Word.Verdict
import CommentSpell.Proofs.Word.Token

/-!
# Flagged tokens

A token is flagged when nothing excuses it (`Judge.Flags`).  All that a judge reports as misspelled is
read off the flagged tokens, in their order (`misspellings_eq`), so equal tokens are always flagged
alike.
-/

namespace CommentSpell

/-- `single word` is the dictionary that accepts `word` and suggests it in place of every other word. -/
def Dictionary.single (word : Text) : Dictionary where
  check other := other == word
  suggest _ := [word]

/-- `pair wrong right` is the dictionary that accepts `right` and suggests it in place of `wrong`
only. -/
def Dictionary.pair (wrong right : Text) : Dictionary where
  check word := word == right
  suggest word := if word = wrong then [right] else []

namespace Judge

/-- `single word identifiers` judges by the dictionary of one `word`, with nothing ignored. -/
def single (word : Text) (identifiers : List Text) : Judge where
  dictionary := .single word
  minWordLength := 3
  identifiers := identifiers
  ignored := []

/-- `judge.Flags token` iff nothing excuses `token`: neither it nor its letters are an identifier, it
has enough letters, and they are neither ignored nor accepted by the dictionary. -/
structure Flags (judge : Judge) (token : Text) : Prop where
  token_not_mem : token ∉ judge.identifiers
  minWordLength_le : judge.minWordLength ≤ (cleanWord token).length
  word_not_mem : cleanWord token ∉ judge.identifiers
  not_ignored : cleanWord token ∉ judge.ignored
  not_accepted : judge.dictionary.check (cleanWord token) = false

theorem flags_iff {judge : Judge} {token : Text} :
    judge.Flags token
      ↔ token ∉ judge.identifiers ∧ judge.minWordLength ≤ (cleanWord token).length
        ∧ cleanWord token ∉ judge.identifiers ∧ cleanWord token ∉ judge.ignored
        ∧ judge.dictionary.check (cleanWord token) = false :=
  ⟨fun h => ⟨h.1, h.2, h.3, h.4, h.5⟩, fun ⟨h₁, h₂, h₃, h₄, h₅⟩ => ⟨h₁, h₂, h₃, h₄, h₅⟩⟩

instance (judge : Judge) (token : Text) : Decidable (judge.Flags token) :=
  decidable_of_iff _ flags_iff.symm

theorem Flags.cleanWord_ne_nil {judge : Judge} (hmin : 1 ≤ judge.minWordLength) {token : Text}
    (h : judge.Flags token) : cleanWord token ≠ [] :=
  List.ne_nil_of_length_pos (Nat.lt_of_lt_of_le hmin h.minWordLength_le)

/-- `judge.Excuses word` iff something excuses `word`: it is an identifier, it is ignored, the
dictionary accepts it, or it is too short. -/
def Excuses (judge : Judge) (word : Text) : Prop :=
  word ∈ judge.identifiers ∨ word ∈ judge.ignored ∨ judge.dictionary.check word
    ∨ word.length < judge.minWordLength

/-- The letters of a flagged `token` are not excused. -/
theorem Flags.not_excuses {judge : Judge} {token : Text} (h : judge.Flags token) :
    ¬ judge.Excuses (cleanWord token) := by
  rintro (hmem | hmem | hcheck | hshort)
  · exact h.word_not_mem hmem
  · exact h.not_ignored hmem
  · rw [h.not_accepted] at hcheck
    cases hcheck
  · exact Nat.not_lt.mpr h.minWordLength_le hshort

/-- `judge.misspellingOf token` is what is reported for a flagged `token`. -/
def misspellingOf (judge : Judge) (token : Text) : Misspelling :=
  ⟨token, cleanWord token, judge.dictionary.suggest (cleanWord token)⟩

theorem misspelling?_verdict (judge : Judge) (token : Text) :
    (judge.verdict token).misspelling?
      = if judge.Flags token then some (judge.misspellingOf token) else none := by
  unfold verdict
  dsimp only
  split
  · rename_i hmem
    rw [if_neg fun h : judge.Flags token => h.token_not_mem hmem]
    rfl
  split
  · rename_i hshort
    rw [if_neg fun h : judge.Flags token => Nat.not_lt.mpr h.minWordLength_le hshort]
    rfl
  split
  · rename_i hmem
    rw [if_neg fun h : judge.Flags token => h.word_not_mem hmem]
    rfl
  split
  · rename_i hmem
    rw [if_neg fun h : judge.Flags token => h.not_ignored hmem]
    rfl
  split
  · rename_i hcheck
    rw [if_neg fun h : judge.Flags token => by
      have hfalse := h.not_accepted
      rw [hcheck] at hfalse
      cases hfalse]
    rfl
  · rename_i htoken hshort hword hignored hcheck
    rw [if_pos ⟨htoken, Nat.not_lt.mp hshort, hword, hignored, Bool.eq_false_iff.mpr hcheck⟩]
    rfl

/-- `judge.misspellings text` are those of the flagged tokens of the masked `text`, in their order. -/
theorem misspellings_eq (judge : Judge) (text : Text) :
    judge.misspellings text
      = ((tokenize (maskCalls judge.identifiers text)).filter fun token =>
          judge.Flags token).map judge.misspellingOf := by
  rw [misspellings, verdicts, List.filterMap_map]
  -- filtering and mapping by verdicts is filtering by `Flags`, token by token
  induction tokenize (maskCalls judge.identifiers text) with
  | nil => rfl
  | cons token tokens ih =>
    rw [List.filterMap_cons, Function.comp, misspelling?_verdict]
    by_cases h : judge.Flags token
    · rw [if_pos h, List.filter_cons, if_pos (decide_eq_true h), List.map_cons, ← ih]
    · rw [if_neg h, List.filter_cons, if_neg (by simpa using h), ← ih]

theorem mem_misspellings_iff {judge : Judge} {text : Text} {m : Misspelling} :
    m ∈ judge.misspellings text
      ↔ ∃ token ∈ tokenize (maskCalls judge.identifiers text),
          judge.Flags token ∧ m = judge.misspellingOf token := by
  rw [misspellings_eq, List.mem_map]
  constructor
  · rintro ⟨token, hmem, rfl⟩
    rw [List.mem_filter, decide_eq_true_eq] at hmem
    exact ⟨token, hmem.1, hmem.2, rfl⟩
  · rintro ⟨token, hmem, hflags, rfl⟩
    exact ⟨token, List.mem_filter.mpr ⟨hmem, decide_eq_true hflags⟩, rfl⟩

/-- An excused `word` is the word of no misspelling. -/
theorem cleaned_ne_of_excuses {judge : Judge} {word : Text} (h : judge.Excuses word) {text : Text}
    {m : Misspelling} (hm : m ∈ judge.misspellings text) : m.cleaned ≠ word := by
  obtain ⟨token, -, hflags, rfl⟩ := mem_misspellings_iff.mp hm
  rintro rfl
  exact hflags.not_excuses h

/-- `judge.misspellings text` are read off the pieces of the masked `text`. -/
theorem misspellings_eq_filterMap_pieces {judge : Judge} (hmin : 1 ≤ judge.minWordLength)
    (text : Text) :
    judge.misspellings text
      = (Text.pieces isSeparator (maskCalls judge.identifiers text)).filterMap fun word =>
          (judge.verdict (undotted word)).misspelling? := by
  rw [misspellings, verdicts, tokenize_eq, List.filterMap_map, List.filterMap_filter,
    List.filterMap_map]
  refine List.filterMap_congr fun word _ => ?_
  by_cases hnil : undotted word = []
  · -- no token is read off the piece, and the empty token would not be flagged
    have hflags : ¬ judge.Flags [] := fun h => h.cleanWord_ne_nil hmin rfl
    simp [hnil, misspelling?_verdict, hflags]
  · simp [hnil]

end Judge

end CommentSpell
