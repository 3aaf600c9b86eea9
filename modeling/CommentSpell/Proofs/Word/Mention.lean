import CommentSpell.Proofs.Source.Identifier
import CommentSpell.Proofs.Text.MapRuns
import CommentSpell.Proofs.Word.Mask
import CommentSpell.Proofs.Word.Token

/-!
# Mentions of the code

A comment mentions the code where it has an identifier as a token, or restates a call, which is blanked
before the comment is cut into tokens (`IsMention`).

A call is looked for in the text as the earlier calls have left it.  Still, in the text itself a blanked
span reads like a call (`IsFramed`): no word character stands before it, it does not begin with a space,
and it ends with a closing parenthesis.  So no word of the text reaches into a mention or out of it
(`IsMention.cutAt_start`, `IsMention.cutAt_stop`).
-/

namespace CommentSpell

/-- `IsFramed text span` iff `span` of `text` does not begin with a space, ends with a closing
parenthesis, and stands behind no character of a word. -/
structure IsFramed (text : Text) (span : Span) : Prop where
  nonempty : span.start < span.stop
  first : text[span.start]? ≠ some ' '
  last : text[span.stop - 1]? = some ')'
  before : ∀ c ∈ text.charBefore span.start, Text.isAsciiWord c = false

/-- `FramedBlanks text masked` iff `masked`, where it differs from `text`, is blank in a whole framed
span. -/
def FramedBlanks (text masked : Text) : Prop :=
  ∀ i, masked[i]? ≠ text[i]? → ∃ span, IsFramed text span ∧ span.start ≤ i ∧ i < span.stop
    ∧ ∀ j, span.start ≤ j → j < span.stop → masked[j]? = some ' '

namespace FramedBlanks

variable {text masked : Text}

/-- The last character of what is blanked is a closing parenthesis: if `masked` differs from `text` at
`i` and is not blank at `i + 1`, then `text[i]? = some ')'`. -/
theorem getElem?_eq_parenthesis (h : FramedBlanks text masked) {i : Nat}
    (hblanked : masked[i]? ≠ text[i]?) (hnext : masked[i + 1]? ≠ some ' ') :
    text[i]? = some ')' := by
  obtain ⟨span, hframed, hstart, hstop, hblank⟩ := h i hblanked
  have hend : ¬ i + 1 < span.stop := fun hlt => hnext (hblank (i + 1) (by omega) hlt)
  have hlast := hframed.last
  rwa [show span.stop - 1 = i by omega] at hlast

/-- What is blanked does not begin within a word: if `masked` differs from `text` at `i + 1` and is
not blank at `i`, then `text[i]?` is no character of a word. -/
theorem isAsciiWord_eq_false (h : FramedBlanks text masked) {i : Nat}
    (hblanked : masked[i + 1]? ≠ text[i + 1]?) (hbefore : masked[i]? ≠ some ' ') :
    ∀ c ∈ text[i]?, Text.isAsciiWord c = false := by
  obtain ⟨span, hframed, hstart, hstop, hblank⟩ := h (i + 1) hblanked
  have hfirst : ¬ span.start ≤ i := fun hle => hbefore (hblank i hle (by omega))
  have hstart' : span.start = i + 1 := by omega
  intro c hc
  refine hframed.before c ?_
  obtain ⟨hlt, -⟩ := List.getElem?_eq_some_iff.mp hc
  rwa [hstart', Text.charBefore_succ hlt]

/-- A `span` that is framed in `masked` is framed in `text`. -/
theorem isFramed (h : FramedBlanks text masked) (hblanked : Blanked text masked) {span : Span}
    (hframed : IsFramed masked span) : IsFramed text span := by
  have hlast := hblanked.getElem?_eq hframed.last (by decide)
  refine ⟨hframed.nonempty, fun hspace => ?_, hlast, fun c hc => ?_⟩
  · exact hframed.first (hblanked.getElem?_eq_space hspace)
  · cases hstart : span.start with
    | zero =>
      rw [hstart] at hc
      cases hc
    | succ k =>
      have hk : k < text.length := by
        obtain ⟨hlt, -⟩ := List.getElem?_eq_some_iff.mp hlast
        have := hframed.nonempty
        omega
      rw [hstart, Text.charBefore_succ hk] at hc
      by_cases hsame : masked[k]? = text[k]?
      · refine hframed.before c ?_
        rwa [hstart, Text.charBefore_succ (by rwa [hblanked.length_eq]), hsame]
      · -- the character before the span was blanked with a call that ends there
        have hfirst := hframed.first
        rw [hstart] at hfirst
        rw [h.getElem?_eq_parenthesis hsame hfirst] at hc
        obtain rfl := Option.some.inj hc
        decide

end FramedBlanks

/-! ### Blanked calls are framed -/

theorem isAsciiWord_eq_false_of_freesCall {before : Option Char} (h : freesCall before) :
    ∀ c ∈ before, Text.isAsciiWord c = false := by
  rintro c rfl
  rw [Bool.eq_false_iff]
  intro hword
  simp [freesCall, Text.isWordChar_of_isAsciiWord hword] at h

theorem isFramed_of_mem_sites {text call : Text} (hcall : Identifier.isCall call)
    (hspace : call.head? ≠ some ' ') {hit : Hit Unit} (h : hit ∈ sites (restatedSite call) text) :
    IsFramed text (.ofLength hit.start hit.text.length) := by
  obtain ⟨hsite, hpos⟩ := (leftmostFrom_sites (restatedSite_fits call) text).isSite hit h
  obtain ⟨hbefore, ⟨behind, hreads⟩, hlength⟩ := restatedSite_eq_some hsite
  have hlast : call.getLast? = some ')' := by
    rw [Identifier.isCall, Bool.and_eq_true, Text.endsWith, beq_iff_eq] at hcall
    exact hcall.1
  have hget : ∀ i < call.length, text[hit.start + i]? = call[i]? := by
    intro i hi
    rw [← List.getElem?_drop, ← hreads, List.getElem?_append_left hi]
  rw [hlength] at hpos
  refine ⟨?_, ?_, ?_, isAsciiWord_eq_false_of_freesCall hbefore⟩
  · show hit.start < hit.start + hit.text.length
    omega
  · show text[hit.start]? ≠ some ' '
    have hfirst := hget 0 hpos
    rw [Nat.add_zero] at hfirst
    rwa [hfirst, ← List.head?_eq_getElem?]
  · show text[hit.start + hit.text.length - 1]? = some ')'
    rw [hlength, Nat.add_sub_assoc hpos, hget _ (by omega), ← List.getLast?_eq_getElem?, hlast]

theorem framedBlanks_maskCall {call : Text} (hcall : Identifier.isCall call)
    (hspace : call.head? ≠ some ' ') (text : Text) : FramedBlanks text (maskCall text call) := by
  intro i hdiff
  rw [getElem?_maskCall] at hdiff
  split at hdiff
  · rename_i hcovered
    obtain ⟨hit, hmem, hcovers⟩ := List.any_eq_true.mp hcovered
    obtain ⟨hstart, hstop⟩ := (hit.covers_iff i).mp hcovers
    refine ⟨_, isFramed_of_mem_sites hcall hspace hmem, hstart, hstop, fun j hj hj' => ?_⟩
    rw [getElem?_maskCall, if_pos]
    exact List.any_eq_true.mpr ⟨hit, hmem, (hit.covers_iff j).mpr ⟨hj, hj'⟩⟩
  · exact absurd rfl hdiff

theorem isFramed_of_mem_blankedBy {calls : List Text}
    (hcalls : ∀ call ∈ calls, Identifier.isCall call ∧ call.head? ≠ some ' ') {text : Text}
    {span : Span} (h : span ∈ blankedBy calls text) : IsFramed text span := by
  induction calls generalizing text with
  | nil => cases h
  | cons call calls ih =>
    obtain ⟨⟨hcall, hspace⟩, hlater⟩ := List.forall_mem_cons.mp hcalls
    rw [blankedBy, List.mem_append] at h
    rcases h with h | h
    · obtain ⟨hit, hmem, rfl⟩ := List.mem_map.mp h
      exact isFramed_of_mem_sites hcall hspace hmem
    · exact (framedBlanks_maskCall hcall hspace text).isFramed (blanked_maskCall text call)
        (ih hlater h)

section Identifiers

variable {identifiers : List Text} {text : Text} {span : Span}

theorem isFramed_of_mem_blankedSpans
    (hspace : ∀ identifier ∈ identifiers, identifier.head? ≠ some ' ')
    (h : span ∈ blankedSpans identifiers text) : IsFramed text span := by
  refine isFramed_of_mem_blankedBy (fun call hmem => ?_) h
  rw [restatedCalls, (sortBy_perm _ _).mem_iff, List.mem_filter, Bool.and_eq_true] at hmem
  exact ⟨hmem.2.1, hspace call hmem.1⟩

/-- `maskCalls identifiers text` blanks framed spans of `text`. -/
theorem framedBlanks_maskCalls
    (hspace : ∀ identifier ∈ identifiers, identifier.head? ≠ some ' ') (text : Text) :
    FramedBlanks text (maskCalls identifiers text) := by
  intro i hdiff
  obtain ⟨span, hmem, hstart, hstop⟩ : ∃ span ∈ blankedSpans identifiers text,
      span.start ≤ i ∧ i < span.stop := by
    by_contra hnone
    refine hdiff (getElem?_maskCalls_of_outside fun span hmem => ?_)
    by_contra hwithin
    exact hnone ⟨span, hmem, by omega⟩
  exact ⟨span, isFramed_of_mem_blankedSpans hspace hmem, hstart, hstop,
    fun j hj hj' => getElem?_of_mem_blankedSpans hmem hj hj'⟩

/-! ### Mentions -/

/-- `IsMention identifiers text span` iff `text` mentions the code in `span`: a maximal run of
non-separators of the masked text whose token is one of `identifiers`, or a restated call that is
blanked. -/
inductive IsMention (identifiers : List Text) (text : Text) (span : Span) : Prop where
  | token (hrun : Text.IsRun (!isSeparator ·) (maskCalls identifiers text) span)
      (hmem : undotted (span.slice (maskCalls identifiers text)) ∈ identifiers)
  | call (hmem : span ∈ blankedSpans identifiers text)

theorem isAsciiWord_eq_false_of_isSeparator {c : Char} (h : isSeparator c) :
    Text.isAsciiWord c = false := by
  rw [Bool.eq_false_iff]
  intro hword
  rw [isSeparator_eq_false_of_isAsciiWord hword] at h
  cases h

/-- In a run `span` of non-separators of `maskCalls identifiers text`, nothing is blank. -/
theorem getElem?_ne_space_of_isRun
    (hrun : Text.IsRun (!isSeparator ·) (maskCalls identifiers text) span) {i : Nat}
    (hstart : span.start ≤ i) (hstop : i < span.stop) :
    (maskCalls identifiers text)[i]? ≠ some ' ' := by
  intro hblank
  have hspace := hrun.within i hstart hstop ' ' hblank
  revert hspace
  decide

/-- A run `span` of non-separators of `maskCalls identifiers text` reads the same in `text`. -/
theorem slice_maskCalls_of_isRun
    (hrun : Text.IsRun (!isSeparator ·) (maskCalls identifiers text) span) :
    span.slice (maskCalls identifiers text) = span.slice text := by
  refine List.ext_getElem? fun i => ?_
  by_cases hi : i < span.length
  · rw [Text.getElem?_slice _ hi, Text.getElem?_slice _ hi]
    have hlt : span.start + i < span.stop := by
      rw [Span.length] at hi
      omega
    refine (blanked_maskCalls identifiers text (span.start + i)).resolve_right fun hblank => ?_
    exact getElem?_ne_space_of_isRun hrun (Nat.le_add_right _ _) hlt hblank.1
  · rw [List.getElem?_eq_none, List.getElem?_eq_none]
    · exact Nat.le_trans (List.length_take_le _ _) (Nat.not_lt.mp hi)
    · exact Nat.le_trans (List.length_take_le _ _) (Nat.not_lt.mp hi)

namespace IsMention

variable (hspace : ∀ identifier ∈ identifiers, identifier.head? ≠ some ' ')

include hspace

/-- No word of `text` reaches over the start of a mention. -/
theorem cutAt_start (h : IsMention identifiers text span) :
    Text.CutAt Text.isAsciiWord text span.start := by
  intro c hc hword
  suffices hnot : Text.isAsciiWord c = false by
    rw [hword] at hnot
    cases hnot
  cases h with
  | call hmem => exact (isFramed_of_mem_blankedSpans hspace hmem).before c hc
  | token hrun hmem =>
    cases hstart : span.start with
    | zero =>
      rw [hstart] at hc
      cases hc
    | succ k =>
      have hlength := length_maskCalls identifiers text
      have hlt : k < text.length := by
        have := hrun.start_lt_stop
        have := hrun.stop_le_length
        omega
      rw [hstart, Text.charBefore_succ hlt] at hc
      by_cases hsame : (maskCalls identifiers text)[k]? = text[k]?
      · have hbefore := hrun.before c (by
          rwa [hstart, Text.charBefore_succ (by rwa [hlength]), hsame])
        exact isAsciiWord_eq_false_of_isSeparator (by simpa using hbefore)
      · -- a call that ends here was blanked
        have hnext := getElem?_ne_space_of_isRun hrun (Nat.le_refl _) hrun.start_lt_stop
        rw [hstart] at hnext
        rw [(framedBlanks_maskCalls hspace text).getElem?_eq_parenthesis hsame hnext] at hc
        obtain rfl := Option.some.inj hc
        decide

/-- No word of `text` reaches over the end of a mention. -/
theorem cutAt_stop (h : IsMention identifiers text span) :
    Text.CutAt Text.isAsciiWord text span.stop := by
  intro c hc hword d hd
  have hstop : span.stop < text.length := (List.getElem?_eq_some_iff.mp hd).1
  cases h with
  | call hmem =>
    have hframed := isFramed_of_mem_blankedSpans hspace hmem
    have hpos := hframed.nonempty
    have hlast := hframed.last
    rw [show span.stop = span.stop - 1 + 1 by omega, Text.charBefore_succ (by omega), hlast] at hc
    obtain rfl := Option.some.inj hc
    cases hword
  | token hrun hmem =>
    obtain ⟨k, hk⟩ := Nat.exists_eq_add_of_lt hrun.start_lt_stop
    have hlast := getElem?_ne_space_of_isRun hrun (Nat.le_add_right span.start k) (by omega)
    by_cases hsame : (maskCalls identifiers text)[span.stop]? = text[span.stop]?
    · have hafter := hrun.after d (by rwa [hsame])
      exact isAsciiWord_eq_false_of_isSeparator (by simpa using hafter)
    · -- a call that begins here was blanked, and no word ends before a call
      rw [hk] at hsame
      rw [hk, Text.charBefore_succ (by omega)] at hc
      rw [(framedBlanks_maskCalls hspace text).isAsciiWord_eq_false hsame hlast c hc] at hword
      cases hword

end IsMention

end Identifiers

end CommentSpell
