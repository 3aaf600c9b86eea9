import CommentSpell.Edit.Span
import Mathlib.Algebra.Ring.Int.Defs
import Mathlib.Data.List.Basic

/-!
# Reading a text at an offset

Statements about texts speak of what stands at an offset: a word (`ReadsAt`), which is then the slice
of its span (`readsAt_iff_slice_eq`), the character before it (`charBefore`), or a longest run of
characters of one class (`length_takeWhile_eq_iff`).  Of the characters of ASCII words, the code points are
known (`toNat_cases_of_isAsciiWord`).
-/

namespace CommentSpell.Text

/-- `text.ReadsAt word i` iff `word` stands in `text` at offset `i`. -/
def ReadsAt (text word : Text) (i : Nat) : Prop :=
  word <+: text.drop i

instance (text word : Text) (i : Nat) : Decidable (text.ReadsAt word i) :=
  inferInstanceAs (Decidable (word <+: text.drop i))

/-- `charBefore text i` is the character of `text` just before offset `i`, if there is one. -/
def charBefore (text : Text) (i : Nat) : Option Char :=
  (text.take i).getLast?

/-! ### Words at offsets -/

theorem readsAt_drop (text word : Text) (i j : Nat) :
    ReadsAt (text.drop i) word j ↔ text.ReadsAt word (i + j) := by
  rw [ReadsAt, ReadsAt, List.drop_drop]

theorem readsAt_cons_succ (c : Char) (text word : Text) (i : Nat) :
    ReadsAt (c :: text) word (i + 1) ↔ text.ReadsAt word i := by
  rw [ReadsAt, ReadsAt, List.drop_succ_cons]

theorem ReadsAt.add_length_le {text word : Text} {i : Nat} (h : text.ReadsAt word i)
    (hne : word ≠ []) : i + word.length ≤ text.length := by
  have hle := List.IsPrefix.length_le h
  have hpos := List.length_pos_iff.mpr hne
  rw [List.length_drop] at hle
  omega

/-- If `word` ends within `text` from offset `i` on, it stands at `i` in `text ++ rest` iff it stands
there in `text`. -/
theorem readsAt_append_iff {text rest word : Text} {i : Nat} (h : i + word.length ≤ text.length) :
    ReadsAt (text ++ rest) word i ↔ text.ReadsAt word i := by
  rw [ReadsAt, ReadsAt, List.drop_append_of_le_length (by omega)]
  constructor
  · intro hword
    refine List.prefix_of_prefix_length_le hword (List.prefix_append _ rest) ?_
    rw [List.length_drop]
    omega
  · exact List.prefix_append_of_prefix

/-- If `part` stands in `text` at `i` and `word` in `part` at `j`, then `word` stands in `text` at
`i + j`. -/
theorem ReadsAt.trans {text part word : Text} {i j : Nat} (hpart : text.ReadsAt part i)
    (hword : part.ReadsAt word j) : text.ReadsAt word (i + j) := by
  obtain ⟨rest, hrest⟩ := hpart
  rw [ReadsAt, ← List.drop_drop, ← hrest, List.drop_append]
  exact List.prefix_append_of_prefix hword

theorem slice_ofLength (text : Text) (start length : Nat) :
    (Span.ofLength start length).slice text = (text.drop start).take length := by
  rw [Span.slice, Span.length, Span.ofLength, Nat.add_sub_cancel_left]

theorem getElem?_slice (text : Text) {span : Span} {i : Nat} (hi : i < span.length) :
    (span.slice text)[i]? = text[span.start + i]? := by
  rw [Span.slice, List.getElem?_take_of_lt hi, List.getElem?_drop]

/-- The slice `b` of the slice `a` of `text` is a slice of `text`: it starts at `a.start + b.start`
and has the length of `b`. -/
theorem slice_slice {text : Text} {a b : Span} (h : b.stop ≤ a.length) :
    b.slice (a.slice text) = (Span.ofLength (a.start + b.start) b.length).slice text := by
  have hb := b.start_le_stop
  rw [slice_ofLength, Span.slice, Span.slice, List.drop_take, List.take_take, List.drop_drop,
    Nat.min_eq_left]
  rw [Span.length]
  omega

/-- `text.ReadsAt word i` iff `word` is the slice of `text` that starts at `i` and has the length of
`word`. -/
theorem readsAt_iff_slice_eq {text word : Text} {i : Nat} :
    text.ReadsAt word i ↔ (Span.ofLength i word.length).slice text = word := by
  rw [ReadsAt, slice_ofLength, List.prefix_iff_eq_take, eq_comm]

/-- `text.ReadsAt word i` iff `text[i + j]? = word[j]?` for each offset `j` of `word`. -/
theorem readsAt_iff_getElem? {text word : Text} {i : Nat} :
    text.ReadsAt word i ↔ ∀ j < word.length, text[i + j]? = word[j]? := by
  rw [ReadsAt, List.prefix_iff_getElem?]
  refine forall₂_congr fun j hj => ?_
  rw [List.getElem?_drop, List.getElem?_eq_getElem hj]

theorem after?_eq_some_iff {start text rest : Text} :
    after? start text = some rest ↔ text = start ++ rest := by
  induction start generalizing text with
  | nil => rw [after?, Option.some.injEq, List.nil_append]
  | cons a start ih =>
    cases text with
    | nil => simp [after?]
    | cons c text =>
      rw [after?, List.cons_append, List.cons.injEq]
      split
      · rename_i hac
        rw [ih, eq_comm (a := c), hac]
        simp
      · rename_i hac
        simp [eq_comm (a := c), hac]

theorem startsWith_iff {text start : Text} : startsWith text start ↔ start <+: text := by
  rw [startsWith, Option.isSome_iff_exists]
  constructor
  · rintro ⟨rest, hrest⟩
    exact ⟨rest, (after?_eq_some_iff.mp hrest).symm⟩
  · rintro ⟨rest, rfl⟩
    exact ⟨rest, after?_eq_some_iff.mpr rfl⟩

theorem contains_iff_exists_readsAt {part text : Text} :
    contains part text ↔ ∃ i, text.ReadsAt part i := by
  induction text with
  | nil => simp [contains, ReadsAt]
  | cons c rest ih =>
    rw [contains, Bool.or_eq_true, startsWith_iff, ih]
    constructor
    · rintro (hstart | ⟨i, hreads⟩)
      · exact ⟨0, hstart⟩
      · exact ⟨i + 1, (readsAt_cons_succ c rest part i).mpr hreads⟩
    · rintro ⟨i, hreads⟩
      cases i with
      | zero => exact Or.inl hreads
      | succ i => exact Or.inr ⟨i, (readsAt_cons_succ c rest part i).mp hreads⟩

/-! ### The character before an offset -/

theorem charBefore_succ {text : Text} {i : Nat} (h : i < text.length) :
    charBefore text (i + 1) = text[i]? := by
  rw [charBefore, List.take_add_one, List.getElem?_eq_getElem h, Option.toList_some,
    List.getLast?_concat]

theorem charBefore_length_append (pre text : Text) :
    charBefore (pre ++ text) pre.length = pre.getLast? := by
  rw [charBefore, List.take_left]

/-! ### Longest runs -/

/-- `text.takeWhile p` has length `n` iff all of the first `n` characters of `text` have `p`, and the
character at `n`, if there is one, does not. -/
theorem length_takeWhile_eq_iff {p : Char → Bool} {text : Text} {n : Nat} :
    (text.takeWhile p).length = n
      ↔ n ≤ text.length ∧ (∀ i < n, ∀ c ∈ text[i]?, p c) ∧ ∀ c ∈ text[n]?, p c = false := by
  induction text generalizing n with
  | nil => simp [eq_comm (a := 0)]
  | cons c text ih =>
    rw [List.takeWhile_cons]
    by_cases hp : p c
    · rw [if_pos hp, List.length_cons]
      cases n with
      | zero => simp [hp]
      | succ n =>
        rw [Nat.add_right_cancel_iff, ih, Nat.forall_lt_succ_left]
        simp [hp]
    · rw [if_neg hp]
      cases n with
      | zero => simp [hp]
      | succ n =>
        rw [Nat.forall_lt_succ_left]
        simp [hp]

/-- `text` is the longest run of `p` at the start of `text ++ rest` iff all characters of `text` have
`p`, and the first one of `rest`, if there is one, does not. -/
theorem length_takeWhile_append_eq_iff {p : Char → Bool} {text rest : Text} :
    ((text ++ rest).takeWhile p).length = text.length
      ↔ (∀ c ∈ text, p c) ∧ ∀ c ∈ rest.head?, p c = false := by
  induction text with
  | nil =>
    cases rest with
    | nil => simp
    | cons c rest => by_cases hp : p c <;> simp [hp]
  | cons c text ih =>
    rw [List.cons_append, List.takeWhile_cons]
    by_cases hp : p c
    · rw [if_pos hp, List.length_cons, List.length_cons, Nat.add_right_cancel_iff, ih]
      simp [hp]
    · rw [if_neg hp]
      simp [hp]

section Run

variable {p : Char → Bool} {run following : Text} (hrun : ∀ c ∈ run, p c)
  (hfollowing : ∀ c ∈ following.head?, p c = false)

include hrun hfollowing

theorem takeWhile_append_eq_left : (run ++ following).takeWhile p = run := by
  have hlength := length_takeWhile_append_eq_iff.mpr ⟨hrun, hfollowing⟩
  have hprefix : (run ++ following).takeWhile p <+: run :=
    List.prefix_of_prefix_length_le (List.takeWhile_prefix p) (List.prefix_append run following)
      (Nat.le_of_eq hlength)
  exact hprefix.eq_of_length hlength

theorem dropWhile_append_eq_right : (run ++ following).dropWhile p = following := by
  have hsplit := List.takeWhile_append_dropWhile (p := p) (l := run ++ following)
  rw [takeWhile_append_eq_left hrun hfollowing] at hsplit
  exact List.append_cancel_left hsplit

end Run

/-! ### Characters of words -/

theorem isAsciiWord_of_isAlpha {c : Char} (h : c.isAlpha) : isAsciiWord c := by
  simp [isAsciiWord, Char.isAlphanum, h]

/-- The code point of an ASCII word character is that of a digit, a capital letter, `_` or a small
letter. -/
theorem toNat_cases_of_isAsciiWord {c : Char} (h : isAsciiWord c) :
    48 ≤ c.toNat ∧ c.toNat ≤ 57 ∨ 65 ≤ c.toNat ∧ c.toNat ≤ 90 ∨ c.toNat = 95
      ∨ 97 ≤ c.toNat ∧ c.toNat ≤ 122 := by
  have hrange : ∀ low high : Char, low.val ≤ c.val → c.val ≤ high.val →
      low.toNat ≤ c.toNat ∧ c.toNat ≤ high.toNat := fun low high hge hle =>
    ⟨UInt32.le_iff_toNat_le.mp hge, UInt32.le_iff_toNat_le.mp hle⟩
  rcases (Bool.or_eq_true _ _).mp h with h | hunderscore
  · rcases (Bool.or_eq_true _ _).mp h with hletter | hdigit
    · rcases (Bool.or_eq_true _ _).mp hletter with hupper | hlower
      · obtain ⟨hge, hle⟩ := of_decide_eq_true hupper
        exact Or.inr (Or.inl (hrange 'A' 'Z' hge hle))
      · obtain ⟨hge, hle⟩ := (Bool.and_eq_true _ _).mp hlower
        exact Or.inr (Or.inr (Or.inr
          (hrange 'a' 'z' (of_decide_eq_true hge) (of_decide_eq_true hle))))
    · obtain ⟨hge, hle⟩ := (Bool.and_eq_true _ _).mp hdigit
      exact Or.inl (hrange '0' '9' (of_decide_eq_true hge) (of_decide_eq_true hle))
  · rw [beq_iff_eq.mp hunderscore]
    decide

/-- The code point of an ASCII word character lies between those of `0` and `z`. -/
theorem toNat_bounds_of_isAsciiWord {c : Char} (h : isAsciiWord c) :
    48 ≤ c.toNat ∧ c.toNat ≤ 122 := by
  have hcases := toNat_cases_of_isAsciiWord h
  omega

end CommentSpell.Text
