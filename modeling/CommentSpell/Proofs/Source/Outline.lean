import CommentSpell.Proofs.Source.Comment

/-!
# Outlines

Where comments begin and end depends on four characters only: the slash, the asterisk and the two
line breaks.  The `outline` of a text keeps these delimiters and writes each run of other characters
as one gap.  Gaps matter, as a gap parts two delimiters that would otherwise form a pair.

A part of a text can be rewritten without moving a comment if its outline stays: texts of one outline
open a comment together (`opens_congr`), and a comment of a text remains one comment when the comment
and what follows it are rewritten within their outlines (`length?_append_of_outline_eq`).  Hence the
scan of a text whose comments are rewritten finds the rewritten comments (`scan_rewrite`).
-/

namespace CommentSpell

/-- `isDelimiter c` iff `c` can open, close or end a comment. -/
def isDelimiter (c : Char) : Bool :=
  c == '/' || c == '*' || Text.isLineBreak c

theorem isDelimiter_eq_false_of_isAlpha {c : Char} (h : c.isAlpha) : isDelimiter c = false := by
  rw [Bool.eq_false_iff]
  intro hdelimiter
  simp only [isDelimiter, Text.isLineBreak, Bool.or_eq_true, beq_iff_eq] at hdelimiter
  rcases hdelimiter with (rfl | rfl) | rfl | rfl <;> revert h <;> decide

theorem isDelimiter_eq_false_iff {c : Char} :
    isDelimiter c = false ↔ c ≠ '/' ∧ c ≠ '*' ∧ c ≠ '\r' ∧ c ≠ '\n' := by
  simp [isDelimiter, Text.isLineBreak, and_assoc]

namespace Outline

/-- A mark of an outline: a delimiter, or `none` for a gap between delimiters. -/
abbrev Mark := Option Char

/-- `push mark outline` is `outline` with `mark` in front of it; two gaps are one. -/
def push (mark : Mark) (outline : List Mark) : List Mark :=
  if mark = none ∧ outline.head? = some none then outline else mark :: outline

/-- `mark c` is the mark of the character `c`. -/
def mark (c : Char) : Mark :=
  if isDelimiter c then some c else none

end Outline

/-- `outline text` are the delimiters of `text`, with each run of other characters between them as one
gap. -/
def outline (text : Text) : List Outline.Mark :=
  text.foldr (fun c marks => Outline.push (Outline.mark c) marks) []

namespace Outline

/-! ### Building outlines -/

theorem push_some (c : Char) (marks : List Mark) : push (some c) marks = some c :: marks :=
  if_neg (by simp)

theorem push_none_of_gap {marks : List Mark} (h : marks.head? = some none) :
    push none marks = marks :=
  if_pos ⟨rfl, h⟩

theorem push_none_of_not_gap {marks : List Mark} (h : marks.head? ≠ some none) :
    push none marks = none :: marks :=
  if_neg fun hgap => h hgap.2

theorem head?_push_none (marks : List Mark) : (push none marks).head? = some none := by
  by_cases h : marks.head? = some none
  · rw [push_none_of_gap h, h]
  · rw [push_none_of_not_gap h, List.head?_cons]

theorem push_none_push_none (marks : List Mark) :
    push none (push none marks) = push none marks :=
  push_none_of_gap (head?_push_none marks)

@[simp] theorem outline_nil : outline [] = [] := rfl

theorem outline_cons (c : Char) (text : Text) :
    outline (c :: text) = push (mark c) (outline text) := rfl

theorem outline_cons_delimiter {c : Char} (h : isDelimiter c) (text : Text) :
    outline (c :: text) = some c :: outline text := by
  rw [outline_cons, mark, if_pos h, push_some]

theorem outline_cons_other {c : Char} (h : isDelimiter c = false) (text : Text) :
    outline (c :: text) = push none (outline text) := by
  rw [outline_cons, mark, if_neg (Bool.not_eq_true _ ▸ h)]

/-- Pushing the marks of `text` on `marks` is pushing those of `outline text`. -/
theorem foldr_push_eq (text : Text) (marks : List Mark) :
    text.foldr (fun c marks => push (mark c) marks) marks = (outline text).foldr push marks := by
  induction text with
  | nil => rfl
  | cons c text ih =>
    rw [List.foldr_cons, ih]
    by_cases hc : isDelimiter c
    · rw [outline_cons_delimiter hc, List.foldr_cons, mark, if_pos hc]
    · rw [outline_cons_other (Bool.eq_false_iff.mpr hc), mark, if_neg hc]
      by_cases hgap : (outline text).head? = some none
      · obtain ⟨marks', hmarks'⟩ := List.head?_eq_some_iff.mp hgap
        rw [push_none_of_gap hgap, hmarks', List.foldr_cons, push_none_push_none]
      · rw [push_none_of_not_gap hgap, List.foldr_cons]

theorem outline_append (a b : Text) : outline (a ++ b) = (outline a).foldr push (outline b) := by
  rw [outline, List.foldr_append, foldr_push_eq]
  rfl

/-- `outline (a ++ b) = outline (a' ++ b')` if `a` and `a'` have one outline, and so have `b` and
`b'`. -/
theorem outline_append_congr {a a' b b' : Text} (ha : outline a = outline a')
    (hb : outline b = outline b') : outline (a ++ b) = outline (a' ++ b') := by
  rw [outline_append, outline_append, ha, hb]

/-- `outline text = [none]` if `text` is not empty and has no delimiters. -/
theorem outline_eq_gap {text : Text} (hne : text ≠ []) (h : ∀ c ∈ text, isDelimiter c = false) :
    outline text = [none] := by
  induction text with
  | nil => exact absurd rfl hne
  | cons c text ih =>
    rw [outline_cons_other (h c List.mem_cons_self)]
    cases text with
    | nil => rfl
    | cons d text =>
      rw [ih (List.cons_ne_nil _ _) fun x hx => h x (List.mem_cons_of_mem _ hx)]
      rfl

/-! ### Reading outlines -/

theorem head?_outline_of_other {c : Char} (h : isDelimiter c = false) (text : Text) :
    (outline (c :: text)).head? = some none := by
  rw [outline_cons_other h, head?_push_none]

theorem outline_eq_nil_iff {text : Text} : outline text = [] ↔ text = [] := by
  constructor
  · intro h
    cases text with
    | nil => rfl
    | cons c text =>
      by_cases hc : isDelimiter c
      · rw [outline_cons_delimiter hc] at h
        cases h
      · have hhead := head?_outline_of_other (Bool.eq_false_iff.mpr hc) text
        rw [h] at hhead
        cases hhead
  · rintro rfl
    rfl

theorem eq_cons_of_outline_eq {d : Char} {text : Text} {marks : List Mark}
    (h : outline text = some d :: marks) :
    ∃ rest, text = d :: rest ∧ isDelimiter d ∧ outline rest = marks := by
  cases text with
  | nil => cases h
  | cons c text =>
    by_cases hc : isDelimiter c
    · rw [outline_cons_delimiter hc, List.cons.injEq, Option.some.injEq] at h
      exact ⟨text, by rw [h.1], h.1 ▸ hc, h.2⟩
    · have hhead := head?_outline_of_other (Bool.eq_false_iff.mpr hc) text
      rw [h] at hhead
      cases hhead

/-- `text` begins with the delimiters `d` and `e` iff `outline text` does. -/
theorem pair_prefix_iff {d e : Char} (hd : isDelimiter d) (he : isDelimiter e) {text : Text} :
    [d, e] <+: text ↔ [some d, some e] <+: outline text := by
  constructor
  · rintro ⟨rest, rfl⟩
    refine ⟨outline rest, ?_⟩
    have houtline := outline_cons_delimiter hd (e :: rest)
    rw [outline_cons_delimiter he] at houtline
    exact houtline.symm
  · rintro ⟨marks, hmarks⟩
    obtain ⟨rest, rfl, -, hrest⟩ := eq_cons_of_outline_eq hmarks.symm
    obtain ⟨rest, rfl, -, -⟩ := eq_cons_of_outline_eq hrest
    exact ⟨rest, rfl⟩

/-- If `outline text = outline text'` and `text` begins with the delimiters `d` and `e`, then so does
`text'`, and what follows them has one outline again. -/
theorem exists_pair_of_outline_eq {d e : Char} (hd : isDelimiter d) (he : isDelimiter e)
    {text text' : Text} (h : outline text = outline text') (hpair : [d, e] <+: text) :
    ∃ body body', text = d :: e :: body ∧ text' = d :: e :: body'
      ∧ outline body = outline body' := by
  obtain ⟨body, rfl⟩ := hpair
  rw [List.cons_append, outline_cons_delimiter hd, List.cons_append, outline_cons_delimiter he] at h
  obtain ⟨rest, rfl, -, hrest⟩ := eq_cons_of_outline_eq h.symm
  obtain ⟨body', rfl, -, hbody⟩ := eq_cons_of_outline_eq hrest
  exact ⟨body, body', rfl, rfl, hbody.symm⟩

theorem mem_outline_iff {d : Char} (hd : isDelimiter d) {text : Text} :
    some d ∈ outline text ↔ d ∈ text := by
  induction text with
  | nil => simp
  | cons c text ih =>
    by_cases hc : isDelimiter c
    · rw [outline_cons_delimiter hc, List.mem_cons, List.mem_cons, ih, Option.some.injEq]
    · have hdc : d ≠ c := by
        rintro rfl
        exact hc hd
      rw [outline_cons_other (Bool.eq_false_iff.mpr hc), push, List.mem_cons]
      split
      · rw [ih, or_iff_right hdc]
      · rw [List.mem_cons, ih, or_iff_right hdc, or_iff_right (Option.some_ne_none d)]

/-! ### Closers -/

/-- `closerEnd? marks` is the number of `marks` up to the end of the nearest block closer. -/
def closerEnd? : List Mark → Option Nat
  | [] => none
  | some '*' :: some '/' :: _ => some 2
  | _ :: rest => (closerEnd? rest).map (· + 1)

theorem closerEnd?_pair (rest : List Mark) : closerEnd? (some '*' :: some '/' :: rest) = some 2 := rfl

theorem closerEnd?_cons {mark : Mark} {rest : List Mark}
    (h : ¬ [some '*', some '/'] <+: mark :: rest) :
    closerEnd? (mark :: rest) = (closerEnd? rest).map (· + 1) := by
  rw [closerEnd?]
  rintro following rfl rfl
  exact h ⟨following, rfl⟩

/-- If no `*/` begins at `c`, then `outline (c :: text)` has one mark more than `outline text` and its
nearest closer ends one mark later, or both are the same. -/
theorem closerEnd?_outline_cons {c : Char} {text : Text} (h : ¬ ['*', '/'] <+: c :: text) :
    closerEnd? (outline (c :: text)) = (closerEnd? (outline text)).map (· + 1)
        ∧ (outline (c :: text)).length = (outline text).length + 1
      ∨ outline (c :: text) = outline text := by
  have hmarks : ¬ [some '*', some '/'] <+: outline (c :: text) :=
    fun hpair => h ((pair_prefix_iff rfl rfl).mpr hpair)
  by_cases hc : isDelimiter c
  · rw [outline_cons_delimiter hc] at hmarks ⊢
    exact Or.inl ⟨closerEnd?_cons hmarks, rfl⟩
  · rw [outline_cons_other (Bool.eq_false_iff.mpr hc)] at hmarks ⊢
    by_cases hgap : (outline text).head? = some none
    · exact Or.inr (push_none_of_gap hgap)
    · rw [push_none_of_not_gap hgap] at hmarks ⊢
      exact Or.inl ⟨closerEnd?_cons hmarks, rfl⟩

theorem closerEnd?_isSome (text : Text) :
    (closerEnd? (outline text)).isSome = (Comment.closerEnd? text).isSome := by
  induction text with
  | nil => rfl
  | cons c text ih =>
    rw [Comment.closerEnd?_cons]
    split
    · rename_i hpair
      obtain ⟨marks, hmarks⟩ := (pair_prefix_iff rfl rfl).mp hpair
      rw [← hmarks]
      rfl
    · rename_i hpair
      rw [Option.isSome_map, ← ih]
      rcases closerEnd?_outline_cons hpair with ⟨hcloser, -⟩ | hsame
      · rw [hcloser, Option.isSome_map]
      · rw [hsame]

/-- The nearest `*/` ends `text` iff it ends `outline text`. -/
theorem closerEnd?_eq_length_iff {text : Text} :
    Comment.closerEnd? text = some text.length
      ↔ closerEnd? (outline text) = some (outline text).length := by
  induction text with
  | nil => exact iff_of_false (Option.some_ne_none 0).symm (Option.some_ne_none 0).symm
  | cons c text ih =>
    rw [Comment.closerEnd?_cons]
    split
    · rename_i hpair
      obtain ⟨rest, hrest⟩ := hpair
      have houtline : outline (c :: text) = some '*' :: some '/' :: outline rest := by
        rw [← hrest, List.cons_append, outline_cons_delimiter rfl, List.cons_append,
          outline_cons_delimiter rfl, List.nil_append]
      rw [houtline, closerEnd?_pair, ← hrest, Option.some.injEq, Option.some.injEq]
      simp [outline_eq_nil_iff]
    · rename_i hpair
      have htext : (Comment.closerEnd? text).map (· + 1) = some (c :: text).length
          ↔ Comment.closerEnd? text = some text.length := by
        rw [List.length_cons]
        cases Comment.closerEnd? text <;> simp
      rw [htext, ih]
      rcases closerEnd?_outline_cons hpair with ⟨hcloser, hlength⟩ | hsame
      · rw [hcloser, hlength]
        cases closerEnd? (outline text) <;> simp
      · rw [hsame]

end Outline

namespace Comment

open Outline

/-! ### Comments of texts with one outline -/

/-- The nearest `*/` of `text ++ rest` ends `text` iff the nearest one of `text` does. -/
theorem closerEnd?_append_eq_length_iff (text rest : Text) :
    closerEnd? (text ++ rest) = some text.length ↔ closerEnd? text = some text.length := by
  rw [closerEnd?_eq_some_iff, closerEnd?_eq_some_iff]
  -- a closer that ends within the text stands in the text alone
  have hreads : ∀ j, j + 2 ≤ text.length →
      (Text.ReadsAt (text ++ rest) ['*', '/'] j ↔ text.ReadsAt ['*', '/'] j) :=
    fun j hj => Text.readsAt_append_iff hj
  constructor
  · rintro ⟨hle, hcloses, hnearest⟩
    refine ⟨hle, (hreads _ (by omega)).mp hcloses, fun j hj => ?_⟩
    have hlength := hj.add_length_le (List.cons_ne_nil _ _)
    simp only [List.length_cons, List.length_nil] at hlength
    exact hnearest j ((hreads j hlength).mpr hj)
  · rintro ⟨hle, hcloses, hnearest⟩
    refine ⟨hle, (hreads _ (by omega)).mpr hcloses, fun j hj => ?_⟩
    by_cases hlength : j + 2 ≤ text.length
    · exact hnearest j ((hreads j hlength).mp hj)
    · omega

theorem length?_line_append_iff {text rest : Text} :
    length? ('/' :: '/' :: text ++ rest) = some ('/' :: '/' :: text).length
      ↔ (∀ c ∈ text, Text.isLineBreak c = false) ∧ ∀ c ∈ rest.head?, Text.isLineBreak c := by
  rw [List.cons_append, List.cons_append, length?_line, List.length_cons, List.length_cons,
    Option.some.injEq, Nat.add_comm 2, Nat.add_right_cancel_iff,
    Text.length_takeWhile_append_eq_iff]
  simp only [Bool.not_eq_true', Bool.not_eq_false']

theorem length?_block_append_iff {text rest : Text} :
    length? ('/' :: '*' :: text ++ rest) = some ('/' :: '*' :: text).length
      ↔ closerEnd? text = some text.length := by
  rw [List.cons_append, List.cons_append, length?_block, List.length_cons, List.length_cons,
    ← closerEnd?_append_eq_length_iff text rest]
  cases closerEnd? (text ++ rest) with
  | none => simp
  | some n =>
    rw [Option.map_some, Option.some.injEq, Option.some.injEq]
    omega

theorem isDelimiter_of_isLineBreak {c : Char} (h : Text.isLineBreak c) : isDelimiter c := by
  rw [isDelimiter, h, Bool.or_true]

theorem isLineBreak_head_of_outline_eq {rest rest' : Text} (hrest : outline rest = outline rest')
    (h : ∀ c ∈ rest.head?, Text.isLineBreak c) : ∀ c ∈ rest'.head?, Text.isLineBreak c := by
  cases rest with
  | nil =>
    have hnil := outline_eq_nil_iff.mp hrest.symm
    rw [hnil]
    simp
  | cons c rest =>
    have hbreak := h c rfl
    rw [outline_cons_delimiter (isDelimiter_of_isLineBreak hbreak)] at hrest
    obtain ⟨rest', rfl, -, -⟩ := eq_cons_of_outline_eq hrest.symm
    rintro d hd
    rw [List.head?_cons, Option.mem_some_iff] at hd
    rwa [← hd]

/-- If `text` is the comment at the start of `text ++ rest`, then `text'` is the comment at the start
of `text' ++ rest'`, if both parts keep their outlines. -/
theorem length?_append_of_outline_eq {text text' rest rest' : Text}
    (htext : outline text = outline text') (hrest : outline rest = outline rest')
    (h : length? (text ++ rest) = some text.length) :
    length? (text' ++ rest') = some text'.length := by
  have htwo := two_le_length? h
  rcases length?_eq_some_iff.mp h with hline | hblock
  · have hopens := (Text.readsAt_append_iff (i := 0) (by simpa using htwo)).mp hline.opens
    obtain ⟨body, body', rfl, rfl, hbody⟩ := exists_pair_of_outline_eq rfl rfl htext hopens
    rw [length?_line_append_iff] at h ⊢
    refine ⟨fun c hc => ?_, isLineBreak_head_of_outline_eq hrest h.2⟩
    -- a line break in the rewritten comment would also stand in the comment
    by_contra hbreak
    rw [Bool.not_eq_false] at hbreak
    have hdelimiter := isDelimiter_of_isLineBreak hbreak
    rw [← mem_outline_iff hdelimiter, ← hbody, mem_outline_iff hdelimiter] at hc
    rw [h.1 c hc] at hbreak
    cases hbreak
  · have hopens := (Text.readsAt_append_iff (i := 0) (by simpa using htwo)).mp hblock.opens
    obtain ⟨body, body', rfl, rfl, hbody⟩ := exists_pair_of_outline_eq rfl rfl htext hopens
    rw [length?_block_append_iff, closerEnd?_eq_length_iff] at h ⊢
    rwa [← hbody]

/-- `length? text` is a number iff `outline text` begins with `//`, or with `/*` and has a closer
behind it. -/
theorem length?_isSome_iff_outline {text : Text} :
    (length? text).isSome
      ↔ [some '/', some '/'] <+: outline text
        ∨ ∃ marks, outline text = some '/' :: some '*' :: marks ∧
            (Outline.closerEnd? marks).isSome := by
  by_cases hline : ['/', '/'] <+: text
  · have hmarks := (pair_prefix_iff rfl rfl).mp hline
    obtain ⟨rest, rfl⟩ := hline
    exact iff_of_true rfl (Or.inl hmarks)
  · have hmarks : ¬ [some '/', some '/'] <+: outline text :=
      fun hpair => hline ((pair_prefix_iff rfl rfl).mpr hpair)
    rw [or_iff_right hmarks]
    by_cases hblock : ['/', '*'] <+: text
    · obtain ⟨rest, rfl⟩ := hblock
      rw [List.cons_append, List.cons_append, List.nil_append, length?_block, Option.isSome_map,
        outline_cons_delimiter rfl, outline_cons_delimiter rfl, ← closerEnd?_isSome]
      simp
    · rw [length?_eq_none hline hblock]
      refine iff_of_false Bool.false_ne_true ?_
      rintro ⟨marks, houtline, -⟩
      exact hblock ((pair_prefix_iff rfl rfl).mpr ⟨marks, houtline.symm⟩)

/-- Texts with one outline open a comment together. -/
theorem opens_congr {text text' : Text} (h : outline text = outline text') :
    (length? text).isSome = (length? text').isSome := by
  rw [Bool.eq_iff_iff, length?_isSome_iff_outline, length?_isSome_iff_outline, h]

end Comment

end CommentSpell
