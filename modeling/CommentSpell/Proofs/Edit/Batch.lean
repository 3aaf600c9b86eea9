import CommentSpell.Edit.Batch
import CommentSpell.Proofs.Sorting
import CommentSpell.Proofs.Text.Basic

/-!
# Batches in order

A batch whose edits stand in the order of the text, do not overlap and stay within it is accepted as
it is: sorting leaves it alone, no conflict is found, and the text is rebuilt from left to right
(`applyAll_eq_ok`).  Edits that are disjoint stand so once they are sorted (`apart_inOrder`), so they are
accepted in whatever order they are given.
-/

namespace CommentSpell

theorem Span.le_iff {a b : Span} :
    a.le b ↔ a.start < b.start ∨ a.start = b.start ∧ a.stop ≤ b.stop := by
  simp [le]

theorem Span.le_of_stop_le_start {a b : Span} (h : a.stop ≤ b.start) : a.le b := by
  have ha := a.start_le_stop
  have hb := b.start_le_stop
  rw [le_iff]
  omega

namespace TextEdit

/-- `Apart length edits` iff `edits` stand in order, do not overlap, and stay within a text of
`length` characters. -/
structure Apart (length : Nat) (edits : List TextEdit) : Prop where
  ordered : edits.Pairwise fun a b => a.span.stop ≤ b.span.start
  stop_le : ∀ edit ∈ edits, edit.span.stop ≤ length

theorem inOrder_eq_self {length : Nat} {edits : List TextEdit} (h : Apart length edits) :
    inOrder edits = edits :=
  sortBy_eq_self (h.ordered.imp Span.le_of_stop_le_start)

theorem conflict?_eq_none {length covered : Nat} {edits : List TextEdit} (h : Apart length edits)
    (hcovered : ∀ edit ∈ edits, covered ≤ edit.span.start) :
    conflict? length covered edits = none := by
  induction edits generalizing covered with
  | nil => rfl
  | cons edit edits ih =>
    obtain ⟨hfirst, hrest⟩ := List.pairwise_cons.mp h.ordered
    have hstop := h.stop_le edit List.mem_cons_self
    have hstart := hcovered edit List.mem_cons_self
    rw [conflict?, if_neg (Nat.not_lt.mpr hstop), if_neg (Nat.not_lt.mpr hstart)]
    exact ih ⟨hrest, fun e he => h.stop_le e (List.mem_cons_of_mem _ he)⟩ hfirst

/-- `applyAll edits text = .ok (rebuild 0 text edits)` if `edits` are apart. -/
theorem applyAll_eq_ok {edits : List TextEdit} {text : Text} (h : Apart text.length edits) :
    applyAll edits text = .ok (rebuild 0 text edits) := by
  unfold applyAll
  dsimp only
  rw [inOrder_eq_self h, conflict?_eq_none h fun _ _ => Nat.zero_le _]

/-- `applyAll [edit] text` is `text` with `edit.newText` in place of its span, if the span stays
within `text`. -/
theorem applyAll_singleton {edit : TextEdit} {text : Text} (h : edit.span.stop ≤ text.length) :
    applyAll [edit] text
      = .ok (text.take edit.span.start ++ edit.newText ++ text.drop edit.span.stop) := by
  have hapart : Apart text.length [edit] :=
    ⟨List.pairwise_singleton _ _, fun other hmem => by rwa [List.mem_singleton.mp hmem]⟩
  rw [applyAll_eq_ok hapart, rebuild, rebuild, Nat.sub_zero, Nat.sub_zero]

/-- `rebuild` keeps text before the first edit. -/
theorem rebuild_append {cursor : Nat} (kept rest : Text) {edits : List TextEdit}
    (h : ∀ edit ∈ edits, cursor + kept.length ≤ edit.span.start) :
    rebuild cursor (kept ++ rest) edits = kept ++ rebuild (cursor + kept.length) rest edits := by
  cases edits with
  | nil => rfl
  | cons edit edits =>
    have hstart := h edit List.mem_cons_self
    have hstop := edit.span.start_le_stop
    have htake : (kept ++ rest).take (edit.span.start - cursor)
        = kept ++ rest.take (edit.span.start - (cursor + kept.length)) := by
      rw [List.take_append, List.take_of_length_le (by omega), Nat.sub_sub]
    have hdrop : (kept ++ rest).drop (edit.span.stop - cursor)
        = rest.drop (edit.span.stop - (cursor + kept.length)) := by
      rw [List.drop_append, List.drop_of_length_le (by omega), List.nil_append, Nat.sub_sub]
    rw [rebuild, rebuild, htake, hdrop, List.append_assoc, List.append_assoc, List.append_assoc]

/-- `rebuild` puts `edit.newText` in place of the text `old` at the cursor, if `edit` spans it. -/
theorem rebuild_cons {cursor : Nat} {old rest : Text} {edit : TextEdit} {edits : List TextEdit}
    (hstart : edit.span.start = cursor) (hstop : edit.span.stop = cursor + old.length) :
    rebuild cursor (old ++ rest) (edit :: edits)
      = edit.newText ++ rebuild (cursor + old.length) rest edits := by
  rw [rebuild, hstart, hstop, Nat.sub_self, Nat.add_sub_cancel_left, List.take_zero,
    List.drop_left, List.nil_append]

end TextEdit

/-! ### Disjoint edits -/

namespace Span

theorem le_total (a b : Span) : a.le b ∨ b.le a := by
  rw [le_iff, le_iff]
  omega

theorem le_trans (a b c : Span) : a.le b → b.le c → a.le c := by
  rw [le_iff, le_iff, le_iff]
  omega

/-- `a.Disjoint b` iff the spans `a` and `b` have no character in common. -/
def Disjoint (a b : Span) : Prop :=
  a.stop ≤ b.start ∨ b.stop ≤ a.start

theorem Disjoint.symm {a b : Span} (h : a.Disjoint b) : b.Disjoint a :=
  Or.symm h

/-- Of two disjoint spans in order, the first one ends before the second one starts:
`a.stop ≤ b.start`. -/
theorem stop_le_start_of_disjoint {a b : Span} (hle : a.le b) (hdisjoint : a.Disjoint b) :
    a.stop ≤ b.start := by
  rw [le_iff] at hle
  have ha := a.start_le_stop
  have hb := b.start_le_stop
  unfold Disjoint at hdisjoint
  omega

end Span

namespace TextEdit

theorem inOrder_perm (edits : List TextEdit) : (inOrder edits).Perm edits :=
  sortBy_perm _ edits

theorem pairwise_inOrder (edits : List TextEdit) :
    (inOrder edits).Pairwise fun a b => a.span.le b.span :=
  pairwise_sortBy (fun a b => a.span.le_total b.span)
    (fun a b c => Span.le_trans a.span b.span c.span) edits

variable {edits : List TextEdit} {text : Text}

/-- `inOrder edits` are apart if `edits` are pairwise disjoint and stay within `text`. -/
theorem apart_inOrder (hdisjoint : edits.Pairwise fun a b => a.span.Disjoint b.span)
    (hstop : ∀ edit ∈ edits, edit.span.stop ≤ text.length) : Apart text.length (inOrder edits) where
  ordered := by
    have hperm := (inOrder_perm edits).symm
    have hdisjoint' := (hperm.pairwise_iff fun h => Span.Disjoint.symm h).mp hdisjoint
    refine (pairwise_inOrder edits).imp₂ (fun a b hle hapart => ?_) hdisjoint'
    exact Span.stop_le_start_of_disjoint hle hapart
  stop_le edit hmem := hstop edit ((inOrder_perm edits).mem_iff.mp hmem)

/-- `applyAll edits text = .ok (rebuild 0 text (inOrder edits))` if `inOrder edits` are apart. -/
theorem applyAll_of_apart_inOrder (h : Apart text.length (inOrder edits)) :
    applyAll edits text = .ok (rebuild 0 text (inOrder edits)) := by
  have happlied := applyAll_eq_ok h
  unfold applyAll at happlied ⊢
  rwa [inOrder_eq_self h] at happlied

end TextEdit

end CommentSpell
