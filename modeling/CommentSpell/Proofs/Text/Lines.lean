import CommentSpell.Text.Blank
import CommentSpell.Text.Digit
import CommentSpell.Text.Lines
import CommentSpell.Proofs.Text.Basic
import Mathlib.Data.List.TakeWhile

/-!
# Lines put together, and trimming

A line is known again when a line end follows it (`exists_lines_append`).  What follows is cut into lines as
if it stood alone, with one exception: a carriage return before a line feed ends one line with it and not
two, and then an empty line is lost.

Trimming takes away the white space around a text that has none itself (`trim_append`).  From any text it
takes away no more than white space, so behind the blanks at its start a text begins with the trimmed text
(`exists_dropWhile_eq_trim_append`).
-/

namespace CommentSpell

/-- If `ranges.covers n`, then `n` lies in one of the ranges of `ranges`. -/
theorem CodeRanges.exists_of_covers {ranges : CodeRanges} {n : Nat} (h : ranges.covers n) :
    ∃ range ∈ ranges, n ∈ List.range' range.1 (range.2 + 1 - range.1) := by
  induction ranges with
  | nil => cases h
  | cons range ranges ih =>
    obtain ⟨first, last⟩ := range
    rw [covers] at h
    split at h
    · cases h
    · rename_i hfirst
      rcases (Bool.or_eq_true _ _).mp h with hlast | h
      · refine ⟨(first, last), List.mem_cons_self, List.mem_range'_1.mpr ⟨Nat.not_lt.mp hfirst, ?_⟩⟩
        have hle := of_decide_eq_true hlast
        omega
      · obtain ⟨range, hmem, hn⟩ := ih h
        exact ⟨range, List.mem_cons_of_mem _ hmem, hn⟩

namespace Text

/-! ### White space -/

theorem isBlank_of_isLineSeparator {c : Char} (h : isLineSeparator c) : isBlank c := by
  simp only [isLineSeparator, Bool.or_eq_true, Bool.and_eq_true, decide_eq_true_eq, beq_iff_eq] at h
  simp [isBlank, blankRanges, CodeRanges.covers]
  omega

/-- A digit is not blank: `isDigit c` gives `isBlank c = false`. -/
theorem isBlank_eq_false_of_isDigit {c : Char} (h : isDigit c) : isBlank c = false := by
  by_contra hblank
  -- there are few code points of white space, so they are all looked at
  obtain ⟨range, hrange, hcode⟩ := CodeRanges.exists_of_covers (Bool.not_eq_false _ ▸ hblank)
  have hnone : ∀ range ∈ blankRanges, ∀ n ∈ List.range' range.1 (range.2 + 1 - range.1),
      (decimalZeros.find? fun first => first ≤ n && n ≤ first + 9) = none
        ∧ otherDigitRanges.covers n = false := by decide
  obtain ⟨hdecimal, hother⟩ := hnone range hrange c.toNat hcode
  rw [isDigit, decimalValue?, hdecimal, hother] at h
  cases h

theorem isDigits_iff {text : Text} : isDigits text ↔ text ≠ [] ∧ ∀ c ∈ text, isDigit c := by
  simp [isDigits]

/-! ### Line ends -/

/-- `text.IsUnbroken` iff `text` has no line separator. -/
def IsUnbroken (text : Text) : Prop :=
  ∀ c ∈ text, isLineSeparator c = false

instance (text : Text) : Decidable text.IsUnbroken :=
  List.decidableBAll (isLineSeparator · = false) text

/-- `text.IsLineEnd` iff `text` ends a line: it is one line separator, or a carriage return and a line
feed. -/
def IsLineEnd (text : Text) : Prop :=
  text = ['\r', '\n'] ∨ ∃ c, isLineSeparator c ∧ text = [c]

/-- `lines (c :: rest)` is `lines rest` with `c` put in front of its first line, if `c` is no line
separator. -/
theorem lines_cons {c : Char} (hc : isLineSeparator c = false) (rest : Text) :
    lines (c :: rest) = consLine c (lines rest) := by
  rw [lines, if_neg (by simp [hc])]
  intro _ hreturn _
  subst hreturn
  cases hc

theorem lines_append_of_lines_eq {line rest : Text} {later : List Text}
    (hline : line.IsUnbroken) (hrest : lines rest = [] :: later) :
    lines (line ++ rest) = line :: later := by
  induction line with
  | nil => exact hrest
  | cons c line ih =>
    obtain ⟨hc, hline⟩ := List.forall_mem_cons.mp hline
    rw [List.cons_append, lines_cons hc, ih hline, consLine]

theorem lines_eq_singleton {line : Text} (hline : line.IsUnbroken) (hne : line ≠ []) : lines line = [line] := by
  induction line with
  | nil => exact absurd rfl hne
  | cons c line ih =>
    obtain ⟨hc, hline⟩ := List.forall_mem_cons.mp hline
    rw [lines_cons hc]
    by_cases hline' : line = []
    · subst hline'
      rfl
    · rw [ih hline hline', consLine]

/-- `lines (lineEnd ++ rest)` is an empty line and then `lines rest`, less perhaps an empty line at
its front. -/
theorem exists_lines_lineEnd_append {lineEnd : Text} (h : IsLineEnd lineEnd) (rest : Text) :
    ∃ later, lines (lineEnd ++ rest) = [] :: later
      ∧ (lines rest = later ∨ lines rest = [] :: later) := by
  rcases h with rfl | ⟨c, hc, rfl⟩
  · exact ⟨lines rest, rfl, Or.inl rfl⟩
  · rw [List.singleton_append]
    -- a carriage return and the line feed that `rest` begins with are one line end
    by_cases hboth : ∃ rest', c = '\r' ∧ rest = '\n' :: rest'
    · obtain ⟨rest', rfl, rfl⟩ := hboth
      exact ⟨lines rest', rfl, Or.inr rfl⟩
    · refine ⟨lines rest, ?_, Or.inl rfl⟩
      rw [lines, if_pos hc]
      intro rest' hreturn hrest
      exact hboth ⟨rest', hreturn, hrest⟩

/-- `lines (line ++ (lineEnd ++ rest))` is `line` and then `lines rest`, less perhaps an empty line at
its front. -/
theorem exists_lines_append {line lineEnd : Text} (hline : line.IsUnbroken) (hend : IsLineEnd lineEnd)
    (rest : Text) :
    ∃ later, lines (line ++ (lineEnd ++ rest)) = line :: later
      ∧ (lines rest = later ∨ lines rest = [] :: later) := by
  obtain ⟨later, hlines, hlater⟩ := exists_lines_lineEnd_append hend rest
  exact ⟨later, lines_append_of_lines_eq hline hlines, hlater⟩

/-! ### Trimming -/

/-- `text.dropWhile isBlank` is `trim text` with white space behind it. -/
theorem exists_dropWhile_eq_trim_append (text : Text) :
    ∃ blanks, text.dropWhile isBlank = trim text ++ blanks ∧ ∀ c ∈ blanks, isBlank c := by
  have hsplit := List.takeWhile_append_dropWhile (p := isBlank) (l := (text.dropWhile isBlank).reverse)
  refine ⟨((text.dropWhile isBlank).reverse.takeWhile isBlank).reverse, ?_, fun c hc => ?_⟩
  · rw [trim, trimBy, ← List.reverse_append, hsplit, List.reverse_reverse]
  · exact List.mem_takeWhile_imp (List.mem_reverse.mp hc)

theorem takeWhile_append_of_forall_not {p : Char → Bool} {later : Text} (h : ∀ c ∈ later, p c = false)
    (text : Text) : (text ++ later).takeWhile p = text.takeWhile p := by
  induction text with
  | nil =>
    cases later with
    | nil => rfl
    | cons c later => rw [List.nil_append, List.takeWhile_cons, h c List.mem_cons_self]; rfl
  | cons c text ih => rw [List.cons_append, List.takeWhile_cons, List.takeWhile_cons, ih]

/-- `trim (before ++ (text ++ after)) = text` if `before` and `after` are white space and no character
of `text`, which is not empty, is. -/
theorem trim_append {before text after : Text} (hbefore : ∀ c ∈ before, isBlank c)
    (hafter : ∀ c ∈ after, isBlank c) (hne : text ≠ []) (htext : ∀ c ∈ text, isBlank c = false) :
    trim (before ++ (text ++ after)) = text := by
  have hhead : ∀ c ∈ (text ++ after).head?, isBlank c = false := by
    intro c hc
    rw [List.head?_append_of_ne_nil _ hne] at hc
    exact htext c (List.mem_of_mem_head? hc)
  have hlast : ∀ c ∈ text.reverse.head?, isBlank c = false := fun c hc =>
    htext c (List.mem_reverse.mp (List.mem_of_mem_head? hc))
  have hreverse : ∀ c ∈ after.reverse, isBlank c := fun c hc => hafter c (List.mem_reverse.mp hc)
  rw [trim, trimBy, dropWhile_append_eq_right hbefore hhead, List.reverse_append,
    dropWhile_append_eq_right hreverse hlast, List.reverse_reverse]

end Text

end CommentSpell
