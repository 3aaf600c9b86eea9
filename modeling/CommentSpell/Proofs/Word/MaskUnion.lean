import CommentSpell.Proofs.Sorting
import CommentSpell.Proofs.Source.Identifier
import CommentSpell.Proofs.Word.Mask
import Mathlib.Data.List.Induction

/-!
# Masking is a union

Calls are masked one after the other, and each pass reads the text that the earlier passes have left.  Still
the outcome is told by the text as it was: blank are the offsets that lie in a restatement of some call
there (`InRestated`), and no others.

Two readings of calls that meet end at the same place, since each has its only closing parenthesis at its
end (`stop_eq_of_meet`).  So what one pass finds are all restatements of its call
(`covered_iff_inRestated`), and a restatement that meets a blanked one of a longer call lies within it.  A
call cannot be read across blanks either: it begins and ends with a character that is no space, and the
blanked stretches are as long as the call (`not_inRestated_of_readsAt`).  What comes before a call can turn
from a closing parenthesis into a space, and both let a call begin (`freesCall_charBefore_iff`).
-/

namespace CommentSpell

open Identifier

/-- `RestatedAt text call start` iff `text` restates `call` at `start`: `call` stands there, behind a
character that lets a call begin. -/
def RestatedAt (text call : Text) (start : Nat) : Prop :=
  text.ReadsAt call start ∧ freesCall (text.charBefore start)

/-- `InRestated calls text i` iff the offset `i` of `text` lies in a restatement of one of `calls`. -/
def InRestated (calls : List Text) (text : Text) (i : Nat) : Prop :=
  ∃ call ∈ calls, ∃ start, RestatedAt text call start ∧ start ≤ i ∧ i < start + call.length

instance (text call : Text) (start : Nat) : Decidable (RestatedAt text call start) :=
  inferInstanceAs (Decidable (_ ∧ _))

instance (calls : List Text) (text : Text) (i : Nat) : Decidable (InRestated calls text i) :=
  decidable_of_iff
    (∃ call ∈ calls, ∃ start ≤ i, RestatedAt text call start ∧ i < start + call.length)
    (by simp only [InRestated, and_left_comm])

theorem inRestated_singleton_iff {call text : Text} {i : Nat} :
    InRestated [call] text i
      ↔ ∃ start, RestatedAt text call start ∧ start ≤ i ∧ i < start + call.length := by
  simp [InRestated]

theorem inRestated_append_iff {calls calls' : List Text} {text : Text} {i : Nat} :
    InRestated (calls ++ calls') text i ↔ InRestated calls text i ∨ InRestated calls' text i := by
  simp [InRestated, or_and_right, exists_or]

/-! ### Readings of calls -/

section Readings

variable {text call call' : Text} {start start' i : Nat}

theorem getElem?_eq_close_iff (hcall : IsWritten call) (hreads : text.ReadsAt call start)
    (hle : start ≤ i) (hlt : i < start + call.length) :
    text[i]? = some ')' ↔ i + 1 = start + call.length := by
  obtain ⟨j, rfl⟩ := Nat.exists_eq_add_of_le hle
  rw [Text.readsAt_iff_getElem?.mp hreads j (by omega), hcall.closes.getElem?_eq_some_iff]
  omega

theorem getElem?_last (hcall : IsWritten call) (hreads : text.ReadsAt call start) :
    text[start + call.length - 1]? = some ')' := by
  have hpos := hcall.length_pos
  exact (getElem?_eq_close_iff hcall hreads (by omega) (by omega)).mpr (by omega)

/-- If `call'` starts at `i` or before and `call` reaches beyond `i`, then `call'` does not end behind
`call`. -/
theorem stop_le_of_meet (hcall : IsWritten call) (hreads : text.ReadsAt call start)
    (hcall' : IsWritten call') (hreads' : text.ReadsAt call' start') (hlt : i < start + call.length)
    (hle' : start' ≤ i) : start' + call'.length ≤ start + call.length := by
  by_contra hshort
  have hlast := getElem?_last hcall hreads
  rw [getElem?_eq_close_iff hcall' hreads' (by omega) (by omega)] at hlast
  omega

/-- If `call` and `call'` both reach over the offset `i`, they end at the same place. -/
theorem stop_eq_of_meet (hcall : IsWritten call) (hreads : text.ReadsAt call start)
    (hcall' : IsWritten call') (hreads' : text.ReadsAt call' start') (hle : start ≤ i)
    (hlt : i < start + call.length) (hle' : start' ≤ i) (hlt' : i < start' + call'.length) :
    start + call.length = start' + call'.length :=
  Nat.le_antisymm (stop_le_of_meet hcall' hreads' hcall hreads hlt' hle)
    (stop_le_of_meet hcall hreads hcall' hreads' hlt hle')

/-- The sites of `call` in `text` cover `i` iff `InRestated [call] text i`. -/
theorem covered_iff_inRestated (hcall : IsWritten call) :
    (sites (restatedSite call) text).any (·.covers i) ↔ InRestated [call] text i := by
  have hleftmost := leftmostFrom_sites (restatedSite_fits call) text
  rw [List.any_eq_true, inRestated_singleton_iff]
  constructor
  · rintro ⟨hit, hmem, hcovers⟩
    obtain ⟨hfree, hreads, hlength⟩ := restatedSite_eq_some (hleftmost.isSite hit hmem).1
    rw [Hit.covers_iff, Hit.stop, hlength] at hcovers
    exact ⟨hit.start, ⟨hreads, hfree⟩, hcovers⟩
  · rintro ⟨start, ⟨hreads, hfree⟩, hle, hlt⟩
    by_contra hnone
    have hsite : (restatedSite call).StartsAt text start () call.length := by
      refine ⟨?_, hcall.length_pos⟩
      rw [restatedSite, hfree, Bool.true_and, if_pos (Text.startsWith_iff.mpr hreads)]
    refine hleftmost.complete start (Nat.zero_le _) (fun hit hmem => ?_) () call.length hsite
    by_contra hmeets
    -- a hit that the restatement meets is the restatement itself
    obtain ⟨-, hreads', hlength⟩ := restatedSite_eq_some (hleftmost.isSite hit hmem).1
    rw [Hit.stop, hlength] at hmeets
    have hpos := hcall.length_pos
    have hstop := stop_eq_of_meet hcall hreads hcall hreads' (Nat.le_refl start) (by omega) (by omega)
      (by omega)
    refine hnone ⟨hit, hmem, (hit.covers_iff i).mpr ?_⟩
    rw [Hit.stop, hlength]
    omega

end Readings

/-! ### Blanks at given offsets -/

/-- `BlankedAt P text masked` iff `masked` is blank at the offsets of `P` and reads as `text` at all
others. -/
structure BlankedAt (P : Nat → Prop) (text masked : Text) : Prop where
  blank : ∀ i, P i → masked[i]? = some ' '
  kept : ∀ i, ¬ P i → masked[i]? = text[i]?

/-- `P` and `text` determine `masked`: if both `a` and `b` are blanked at `P`, then `a = b`. -/
theorem BlankedAt.unique {P : Nat → Prop} {text a b : Text} (ha : BlankedAt P text a)
    (hb : BlankedAt P text b) : a = b := by
  apply List.ext_getElem?
  intro i
  by_cases hP : P i
  · rw [ha.blank i hP, hb.blank i hP]
  · rw [ha.kept i hP, hb.kept i hP]

section Step

variable {calls : List Text} {text masked call : Text} {start i : Nat}
  (hcalls : ∀ longer ∈ calls, IsWritten longer) (h : BlankedAt (InRestated calls text) text masked)

include hcalls h

/-- A call may begin at `start` in `masked` iff it may begin there in `text`, if `start` is not
blanked. -/
theorem freesCall_charBefore_iff (htext : start < text.length) (hmasked : start < masked.length)
    (hout : ¬ InRestated calls text start) :
    freesCall (masked.charBefore start) ↔ freesCall (text.charBefore start) := by
  cases start with
  | zero => exact Iff.rfl
  | succ n =>
    rw [Text.charBefore_succ (by omega), Text.charBefore_succ (by omega)]
    by_cases hin : InRestated calls text n
    · obtain ⟨longer, hmem, first, hrestated, hle, hlt⟩ := id hin
      -- the restatement ends here, so the blank was a closing parenthesis
      have hend : n + 1 = first + longer.length := by
        by_contra hne
        exact hout ⟨longer, hmem, first, hrestated, by omega, by omega⟩
      have hclose := (getElem?_eq_close_iff (hcalls longer hmem) hrestated.1 hle hlt).mpr hend
      rw [h.blank n hin, hclose]
      decide
    · rw [h.kept n hin]

/-- `masked` restates `call` at `start` iff `text` does, if nothing is blanked there. -/
theorem restatedAt_iff (hcall : IsWritten call)
    (hout : ∀ i, start ≤ i → i < start + call.length → ¬ InRestated calls text i) :
    RestatedAt masked call start ↔ RestatedAt text call start := by
  have hpos := hcall.length_pos
  have hne : call ≠ [] := List.length_pos_iff.mp hpos
  have hsame : masked.ReadsAt call start ↔ text.ReadsAt call start := by
    rw [Text.readsAt_iff_getElem?, Text.readsAt_iff_getElem?]
    refine forall₂_congr fun j hj => ?_
    rw [h.kept (start + j) (hout _ (by omega) (by omega))]
  unfold RestatedAt
  rw [hsame, and_congr_right_iff]
  intro hreads
  have htext := hreads.add_length_le hne
  have hmasked := (hsame.mpr hreads).add_length_le hne
  exact freesCall_charBefore_iff hcalls h (by omega) (by omega) (hout start (by omega) (by omega))

omit hcalls in
/-- If `masked` reads `call` at `start`, none of its offsets lies in a restatement of `calls`, which
are no shorter. -/
theorem not_inRestated_of_readsAt (hcall : IsWritten call)
    (hlonger : ∀ longer ∈ calls, call.length ≤ longer.length) (hreads : masked.ReadsAt call start)
    (hle : start ≤ i) (hlt : i < start + call.length) : ¬ InRestated calls text i := by
  rintro ⟨longer, hmem, first, hrestated, hle', hlt'⟩
  have hpos := hcall.length_pos
  have hlength := hlonger longer hmem
  have hblank : ∀ j, first ≤ j → j < first + longer.length → masked[j]? = some ' ' :=
    fun j hj hj' => h.blank j ⟨longer, hmem, first, hrestated, hj, hj'⟩
  by_cases hfirst : first ≤ start
  · have hchar := Text.readsAt_iff_getElem?.mp hreads 0 hpos
    rw [Nat.add_zero, hblank start hfirst (by omega), ← List.head?_eq_getElem?] at hchar
    exact hcall.begins.head?_ne_space hchar.symm
  · -- the blanks begin behind the first character, and are too long to end before the last one
    have hlast := getElem?_last hcall hreads
    rw [hblank (start + call.length - 1) (by omega) (by omega)] at hlast
    revert hlast
    decide

/-- If `text` restates `call` over the offset `i`, then `i` is blanked already, or `masked` restates
`call` there. -/
theorem inRestated_or_restatedAt (hcall : IsWritten call)
    (hlonger : ∀ longer ∈ calls, call.length ≤ longer.length) (hrestated : RestatedAt text call start)
    (hle : start ≤ i) (hlt : i < start + call.length) :
    InRestated calls text i ∨ RestatedAt masked call start := by
  by_cases hmeets : ∃ j, start ≤ j ∧ j < start + call.length ∧ InRestated calls text j
  · left
    obtain ⟨j, hj, hj', longer, hmem, first, hrestated', hle', hlt'⟩ := hmeets
    have hstop := stop_eq_of_meet hcall hrestated.1 (hcalls longer hmem) hrestated'.1 hj hj' hle' hlt'
    have hlength := hlonger longer hmem
    exact ⟨longer, hmem, first, hrestated', by omega, by omega⟩
  · right
    rw [restatedAt_iff hcalls h hcall fun j hj hj' hin => hmeets ⟨j, hj, hj', hin⟩]
    exact hrestated

/-- `maskCall masked call` is blank where `text` restates one of `calls ++ [call]`, if `masked` is so
for `calls`, which are no shorter than `call`. -/
theorem blankedAt_maskCall (hcall : IsWritten call)
    (hlonger : ∀ longer ∈ calls, call.length ≤ longer.length) :
    BlankedAt (InRestated (calls ++ [call]) text) text (maskCall masked call) where
  blank i hin := by
    rcases inRestated_append_iff.mp hin with hearlier | hnew
    · exact (blanked_maskCall masked call).getElem?_eq_space (h.blank i hearlier)
    · obtain ⟨start, hrestated, hle, hlt⟩ := inRestated_singleton_iff.mp hnew
      rcases inRestated_or_restatedAt hcalls h hcall hlonger hrestated hle hlt with hearlier | hmasked
      · exact (blanked_maskCall masked call).getElem?_eq_space (h.blank i hearlier)
      · rw [getElem?_maskCall, if_pos]
        exact (covered_iff_inRestated hcall).mpr (inRestated_singleton_iff.mpr ⟨start, hmasked, hle, hlt⟩)
  kept i hout := by
    rw [inRestated_append_iff, not_or] at hout
    rw [getElem?_maskCall, if_neg, h.kept i hout.1]
    rw [covered_iff_inRestated hcall]
    intro hmasked
    obtain ⟨start, hrestated, hle, hlt⟩ := inRestated_singleton_iff.mp hmasked
    rw [restatedAt_iff hcalls h hcall fun j =>
      not_inRestated_of_readsAt h hcall hlonger hrestated.1] at hrestated
    exact hout.2 (inRestated_singleton_iff.mpr ⟨start, hrestated, hle, hlt⟩)

end Step

/-! ### All calls -/

/-- Masking `calls` from the longest to the shortest blanks `text` where one of them is restated. -/
theorem blankedAt_foldl_maskCall {calls : List Text} (hcalls : ∀ call ∈ calls, IsWritten call)
    (hsorted : calls.Pairwise fun a b => b.length ≤ a.length) (text : Text) :
    BlankedAt (InRestated calls text) text (calls.foldl maskCall text) := by
  induction calls using List.reverseRecOn with
  | nil => exact ⟨fun i ⟨call, hmem, _⟩ => absurd hmem List.not_mem_nil, fun i _ => rfl⟩
  | append_singleton calls call ih =>
    obtain ⟨hlonger, -, hshorter⟩ := List.pairwise_append.mp hsorted
    have hearlier : ∀ longer ∈ calls, IsWritten longer := fun longer hmem =>
      hcalls longer (List.mem_append_left _ hmem)
    rw [List.foldl_concat]
    exact blankedAt_maskCall hearlier (ih hearlier hlonger)
      (hcalls call (List.mem_append_right _ (List.mem_singleton_self call)))
      fun longer hmem => hshorter longer hmem call (List.mem_singleton_self call)

theorem mem_restatedCalls_iff {identifiers : List Text} {text call : Text} :
    call ∈ restatedCalls identifiers text
      ↔ call ∈ identifiers ∧ isCall call ∧ ∃ i, text.ReadsAt call i := by
  rw [restatedCalls, (sortBy_perm _ _).mem_iff, List.mem_filter, Bool.and_eq_true,
    Text.contains_iff_exists_readsAt]

/-- `InRestated` of the calls that `text` holds is `InRestated` of all calls among `identifiers`: one
that `text` does not hold restates nothing. -/
theorem inRestated_restatedCalls_iff {identifiers : List Text} {text : Text} {i : Nat} :
    InRestated (restatedCalls identifiers text) text i
      ↔ InRestated (identifiers.filter isCall) text i := by
  unfold InRestated
  refine exists_congr fun call => and_congr_left fun ⟨start, hrestated, _⟩ => ?_
  rw [mem_restatedCalls_iff, List.mem_filter]
  exact and_congr_right fun _ => and_iff_left ⟨start, hrestated.1⟩

theorem blankedAt_maskCalls {identifiers : List Text}
    (hcalls : ∀ identifier ∈ identifiers, isCall identifier → IsWritten identifier) (text : Text) :
    BlankedAt (InRestated (identifiers.filter isCall) text) text (maskCalls identifiers text) := by
  have hsorted : (restatedCalls identifiers text).Pairwise fun a b => b.length ≤ a.length := by
    refine (pairwise_sortBy (fun a b => ?_) (fun a b c => ?_) _).imp of_decide_eq_true
    · simpa using Nat.le_total b.length a.length
    · simpa using fun hab hbc => Nat.le_trans hbc hab
  have hmasked := blankedAt_foldl_maskCall (fun call hmem => by
    obtain ⟨hidentifier, hcall, -⟩ := mem_restatedCalls_iff.mp hmem
    exact hcalls call hidentifier hcall) hsorted text
  exact ⟨fun i hin => hmasked.blank i (inRestated_restatedCalls_iff.mpr hin),
    fun i hout => hmasked.kept i fun hin => hout (inRestated_restatedCalls_iff.mp hin)⟩

/-- The offsets that are blanked depend on `identifiers` only as a set. -/
theorem inRestated_filter_congr {identifiers identifiers' : List Text}
    (hmem : ∀ identifier, identifier ∈ identifiers' ↔ identifier ∈ identifiers) (text : Text) :
    InRestated (identifiers'.filter isCall) text = InRestated (identifiers.filter isCall) text := by
  funext i
  simp only [InRestated, List.mem_filter, hmem]

/-- **Masking is a union.** Each call among `identifiers`, which are of `source`, has its only closing
parenthesis at its end.  `maskCalls identifiers text` is as long as `text`, blank where `text` restates
some call of `identifiers`, and reads as `text` at every other offset; it is the same for any list of
these identifiers, in whatever order and however often they stand in it. -/
theorem maskCalls_eq_union {source : Text} {identifiers : List Text}
    (h : ∀ identifier ∈ identifiers, identifier ∈ extract source) (text : Text) :
    (∀ call ∈ identifiers, isCall call → ∀ i, call[i]? = some ')' ↔ i + 1 = call.length)
      ∧ (maskCalls identifiers text).length = text.length
      ∧ (∀ i, (maskCalls identifiers text)[i]?
          = if InRestated (identifiers.filter isCall) text i then some ' ' else text[i]?)
      ∧ ∀ identifiers', (∀ identifier, identifier ∈ identifiers' ↔ identifier ∈ identifiers) →
          maskCalls identifiers' text = maskCalls identifiers text := by
  have hwritten : ∀ identifier ∈ identifiers, isCall identifier → IsWritten identifier :=
    fun identifier hmem => isWritten_of_mem_extract (h identifier hmem)
  have hmasked := blankedAt_maskCalls hwritten text
  refine ⟨fun call hmem hcall i => (hwritten call hmem hcall).closes.getElem?_eq_some_iff,
    length_maskCalls identifiers text, fun i => ?_, fun identifiers' hmem => ?_⟩
  · split
    · exact hmasked.blank i ‹_›
    · exact hmasked.kept i ‹_›
  · have hmasked' := blankedAt_maskCalls
      (fun identifier hidentifier => hwritten identifier ((hmem identifier).mp hidentifier)) text
    rw [inRestated_filter_congr hmem] at hmasked'
    exact hmasked'.unique hmasked

/-- Two calls of one length, of which one is the end of a longer call, in a text that has them nested,
next to each other, and at the end of a longer name. -/
theorem maskCalls_eq_union_nested :
    let identifiers := extract "f(a, g(b)); g(b); h(b);".toList
    let text := "// f(a, g(b)g(b)h(b) or xg(b)h(b)".toList
    maskCalls identifiers text = "//                   or xg(b)    ".toList
      ∧ maskCalls identifiers.reverse text = maskCalls identifiers text
      ∧ (maskCalls identifiers text)[8]? = some ' ' ∧ (maskCalls identifiers text)[26]? = text[26]? := by
  intro identifiers text
  have hextracted : ∀ identifier ∈ identifiers,
      identifier ∈ extract "f(a, g(b)); g(b); h(b);".toList := fun _ hmem => hmem
  obtain ⟨-, -, hmasked, horder⟩ := maskCalls_eq_union hextracted text
  refine ⟨by decide +kernel, horder _ fun _ => List.mem_reverse, (hmasked 8).trans ?_,
    (hmasked 26).trans ?_⟩
  · exact if_pos (by decide +kernel)
  · exact if_neg (by decide +kernel)

end CommentSpell
