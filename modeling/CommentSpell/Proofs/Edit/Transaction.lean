import CommentSpell.Proofs.Edit.Batch

/-!
# Batches as transactions

A batch is checked edit by edit, in the order of the spans, and each edit only against the one before it.
No span stops before it starts, so this is enough: a batch without a conflict is apart
(`conflict?_eq_none_iff`), and a batch is apart in the order of its spans exactly if no two of its edits
overlap and none reaches beyond the text (`apart_inOrder_iff`).

The text is then rebuilt in one pass from left to right.  The same text comes out if the edits are made one
by one from the last to the first, as an edit does not move what stands before it
(`rebuild_eq_foldr_splice`).  The order of the edits is determined by their spans, and by the order in which
insertions at one offset are given (`inOrder_eq_of_perm`), so a batch may be given in any other order that
keeps the latter.
-/

namespace CommentSpell

namespace Span

/-- `a.Overlaps b` iff each of the spans `a` and `b` starts before the other one stops. -/
def Overlaps (a b : Span) : Prop :=
  a.start < b.stop ∧ b.start < a.stop

instance (a b : Span) : Decidable (a.Overlaps b) :=
  inferInstanceAs (Decidable (_ ∧ _))

theorem not_overlaps_iff {a b : Span} : ¬ a.Overlaps b ↔ a.Disjoint b := by
  unfold Overlaps Disjoint
  omega

theorem le_antisymm {a b : Span} (hab : a.le b) (hba : b.le a) : a = b := by
  rw [le_iff] at hab hba
  apply Span.ext <;> omega

end Span

namespace TextEdit

variable {length : Nat} {edits edits' : List TextEdit} {text : Text}

/-! ### Conflicts -/

/-- `conflict? length covered edits = none` iff `edits` are apart and none starts before `covered`. -/
theorem conflict?_eq_none_iff {covered : Nat} :
    conflict? length covered edits = none
      ↔ Apart length edits ∧ ∀ edit ∈ edits, covered ≤ edit.span.start := by
  refine ⟨fun h => ?_, fun h => conflict?_eq_none h.1 h.2⟩
  induction edits generalizing covered with
  | nil => exact ⟨⟨List.Pairwise.nil, by simp⟩, by simp⟩
  | cons edit edits ih =>
    rw [conflict?] at h
    split at h
    · cases h
    rename_i hstop
    split at h
    · cases h
    rename_i hstart
    obtain ⟨hapart, hlater⟩ := ih h
    have hle := edit.span.start_le_stop
    refine ⟨⟨List.pairwise_cons.mpr ⟨hlater, hapart.ordered⟩, ?_⟩, ?_⟩
    · exact List.forall_mem_cons.mpr ⟨Nat.not_lt.mp hstop, hapart.stop_le⟩
    · -- the later edits start behind this one, which starts behind what is taken
      refine List.forall_mem_cons.mpr ⟨Nat.not_lt.mp hstart, fun later hmem => ?_⟩
      have := hlater later hmem
      omega

/-- `inOrder edits` are apart iff `edits` are pairwise disjoint and stay within `text`. -/
theorem apart_inOrder_iff :
    Apart text.length (inOrder edits)
      ↔ (edits.Pairwise fun a b => a.span.Disjoint b.span)
          ∧ ∀ edit ∈ edits, edit.span.stop ≤ text.length := by
  refine ⟨fun h => ⟨?_, fun edit hmem => ?_⟩, fun h => apart_inOrder h.1 h.2⟩
  · refine ((inOrder_perm edits).pairwise_iff fun hab => Span.Disjoint.symm hab).mp ?_
    exact h.ordered.imp Or.inl
  · exact h.stop_le edit ((inOrder_perm edits).mem_iff.mpr hmem)

/-- `Conflicting length edits` iff the batch cannot be made: an edit reaches beyond a text of `length`
characters, or edits at two places of the list overlap. -/
def Conflicting (length : Nat) (edits : List TextEdit) : Prop :=
  (∃ edit ∈ edits, length < edit.span.stop)
    ∨ ∃ i j : Fin edits.length, i ≠ j ∧ edits[i].span.Overlaps edits[j].span

theorem not_conflicting_iff :
    ¬ Conflicting text.length edits ↔ Apart text.length (inOrder edits) := by
  rw [apart_inOrder_iff, List.pairwise_iff_getElem]
  unfold Conflicting
  constructor
  · intro h
    refine ⟨fun i j hi hj hlt => ?_, fun edit hmem => ?_⟩
    · rw [← Span.not_overlaps_iff]
      exact fun hoverlaps => h (Or.inr ⟨⟨i, hi⟩, ⟨j, hj⟩, by simp; omega, hoverlaps⟩)
    · exact Nat.not_lt.mp fun hlt => h (Or.inl ⟨edit, hmem, hlt⟩)
  · rintro ⟨hdisjoint, hstop⟩ (⟨edit, hmem, hlt⟩ | ⟨i, j, hne, hoverlaps⟩)
    · exact Nat.not_lt.mpr (hstop edit hmem) hlt
    · -- the earlier of the two places comes first
      rcases Nat.lt_or_gt_of_ne (Fin.val_ne_of_ne hne) with hlt | hgt
      · exact Span.not_overlaps_iff.mpr (hdisjoint i j i.isLt j.isLt hlt) hoverlaps
      · exact Span.not_overlaps_iff.mpr (hdisjoint j i j.isLt i.isLt hgt) hoverlaps.symm

/-! ### One edit at a time -/

/-- `splice edit text` is `text` with `edit.newText` in place of the span of `edit`. -/
def splice (edit : TextEdit) (text : Text) : Text :=
  text.take edit.span.start ++ edit.newText ++ text.drop edit.span.stop

theorem take_append_rebuild {cursor : Nat} (h : Apart text.length edits)
    (hcursor : ∀ edit ∈ edits, cursor ≤ edit.span.start) :
    text.take cursor ++ rebuild cursor (text.drop cursor) edits = edits.foldr splice text := by
  induction edits generalizing cursor with
  | nil => exact List.take_append_drop cursor text
  | cons edit edits ih =>
    obtain ⟨hlater, hordered⟩ := List.pairwise_cons.mp h.ordered
    obtain ⟨hstop, hstops⟩ := List.forall_mem_cons.mp h.stop_le
    have hstart := hcursor edit List.mem_cons_self
    have hle := edit.span.start_le_stop
    have hrest := ih ⟨hordered, hstops⟩ hlater
    have hlength : (text.take edit.span.stop).length = edit.span.stop := List.length_take_of_le hstop
    -- the later edits leave the text up to the end of this one as it was
    have hbefore : (edits.foldr splice text).take edit.span.start = text.take edit.span.start := by
      rw [← hrest, List.take_append_of_le_length (by omega), List.take_take, Nat.min_eq_left hle]
    have hbehind : (edits.foldr splice text).drop edit.span.stop
        = rebuild edit.span.stop (text.drop edit.span.stop) edits := by
      rw [← hrest, List.drop_append_of_le_length (by omega), List.drop_take, Nat.sub_self,
        List.take_zero, List.nil_append]
    have hkept : text.take cursor ++ (text.drop cursor).take (edit.span.start - cursor)
        = text.take edit.span.start := by
      rw [← List.take_add, Nat.add_sub_cancel' hstart]
    rw [List.foldr_cons, splice, hbefore, hbehind, rebuild, List.drop_drop,
      Nat.add_sub_cancel' (by omega), ← hkept]
    simp only [List.append_assoc]

/-- `rebuild 0 text edits` is `text` with `edits` made one by one, from the last to the first. -/
theorem rebuild_eq_foldr_splice (h : Apart text.length edits) :
    rebuild 0 text edits = edits.foldr splice text :=
  take_append_rebuild h fun _ _ => Nat.zero_le _

/-! ### The order of a batch -/

/-- `IsOrderOf ordered edits` iff `ordered` has the edits of `edits` in the order of their spans, and
those of one span in the order in which they are given. -/
structure IsOrderOf (ordered edits : List TextEdit) : Prop where
  perm : ordered.Perm edits
  ascending : ordered.Pairwise fun a b => a.span.le b.span
  stable : ∀ span, ordered.filter (·.span = span) = edits.filter (·.span = span)

theorem isOrderOf_inOrder (edits : List TextEdit) : IsOrderOf (inOrder edits) edits where
  perm := inOrder_perm edits
  ascending := pairwise_inOrder edits
  stable span := filter_sortBy (fun a b ha hb => by
    rw [of_decide_eq_true ha, of_decide_eq_true hb, Span.le_iff]
    omega) edits

/-- `IsOrderOf ordered edits` gives `ordered = inOrder edits`: there is only one such list. -/
theorem IsOrderOf.eq_inOrder {ordered : List TextEdit} (h : IsOrderOf ordered edits) :
    ordered = inOrder edits := by
  have hspan : ∀ a b : TextEdit, a.span.le b.span → b.span.le a.span → a.span = b.span :=
    fun _ _ => Span.le_antisymm
  refine eq_of_pairwise_of_filter_eq hspan h.ascending (pairwise_inOrder edits) fun span => ?_
  rw [h.stable, (isOrderOf_inOrder edits).stable]

/-! ### Rearranged batches -/

/-- `insertionsAt offset edits` are the edits that insert at `offset` and replace nothing, in the
order in which they are given. -/
def insertionsAt (offset : Nat) (edits : List TextEdit) : List TextEdit :=
  edits.filter fun edit => edit.span.start = offset ∧ edit.span.stop = offset

theorem filter_span_eq_insertionsAt {span : Span} (hempty : span.start = span.stop)
    (edits : List TextEdit) :
    edits.filter (·.span = span) = insertionsAt span.start edits := by
  refine List.filter_congr fun edit _ => ?_
  rw [decide_eq_decide, Span.ext_iff, hempty]

/-- Of disjoint edits, at most one has a given `span` that is not empty. -/
theorem length_filter_span_le (hdisjoint : edits.Pairwise fun a b => a.span.Disjoint b.span)
    {span : Span} (hpos : span.start < span.stop) : (edits.filter (·.span = span)).length ≤ 1 := by
  have hspan : ∀ edit ∈ edits.filter (·.span = span), edit.span = span := fun edit hmem =>
    of_decide_eq_true (List.mem_filter.mp hmem).2
  have hpairwise := hdisjoint.filter (·.span = span)
  generalize edits.filter (·.span = span) = same at hspan hpairwise ⊢
  rcases same with _ | ⟨a, _ | ⟨b, rest⟩⟩
  · exact Nat.zero_le 1
  · exact Nat.le_refl 1
  · have hab := (List.pairwise_cons.mp hpairwise).1 b List.mem_cons_self
    rw [hspan a (by simp), hspan b (by simp)] at hab
    unfold Span.Disjoint at hab
    omega

/-- `inOrder edits' = inOrder edits` if `edits'` are disjoint `edits` in another order that keeps the
insertions at each offset in theirs. -/
theorem inOrder_eq_of_perm (hperm : edits'.Perm edits)
    (hinsertions : ∀ offset, insertionsAt offset edits' = insertionsAt offset edits)
    (hdisjoint : edits.Pairwise fun a b => a.span.Disjoint b.span) :
    inOrder edits' = inOrder edits := by
  refine IsOrderOf.eq_inOrder ⟨(inOrder_perm edits').trans hperm, pairwise_inOrder edits', fun span => ?_⟩
  rw [(isOrderOf_inOrder edits').stable]
  rcases Nat.eq_or_lt_of_le span.start_le_stop with hempty | hpos
  · rw [filter_span_eq_insertionsAt hempty, filter_span_eq_insertionsAt hempty, hinsertions]
  · have hone := length_filter_span_le hdisjoint hpos
    have hsame := hperm.filter (·.span = span)
    generalize edits.filter (·.span = span) = same at hone hsame ⊢
    rcases same with _ | ⟨a, _ | ⟨b, rest⟩⟩
    · exact hsame.eq_nil
    · exact hsame.eq_singleton
    · simp at hone

/-- `conflict? length covered edits` depends on the spans of `edits` only. -/
theorem conflict?_congr {covered : Nat} (h : edits.map span = edits'.map span) :
    conflict? length covered edits = conflict? length covered edits' := by
  induction edits generalizing edits' covered with
  | nil =>
    rw [List.map_nil, eq_comm, List.map_eq_nil_iff] at h
    rw [h]
  | cons edit edits ih =>
    obtain ⟨edit', rest', rfl, hspan, hrest⟩ := List.map_eq_cons_iff.mp h.symm
    rw [conflict?, conflict?, hspan, ih hrest.symm]

theorem map_span_inOrder_of_perm (hperm : edits'.Perm edits) :
    (inOrder edits').map span = (inOrder edits).map span := by
  have hascending : ∀ edits, ((inOrder edits).map span).Pairwise fun a b => a.le b :=
    fun edits => List.pairwise_map.mpr (pairwise_inOrder edits)
  refine List.Perm.eq_of_pairwise (fun _ _ _ _ => Span.le_antisymm) (hascending edits')
    (hascending edits) (List.Perm.map span ?_)
  exact (inOrder_perm edits').trans (hperm.trans (inOrder_perm edits).symm)

/-! ### The batch as a whole -/

theorem applyAll_eq_error_iff :
    (∃ conflict, applyAll edits text = .error conflict) ↔ Conflicting text.length edits := by
  constructor
  · rintro ⟨conflict, herror⟩
    by_contra hconflict
    rw [applyAll_of_apart_inOrder (not_conflicting_iff.mp hconflict)] at herror
    cases herror
  · intro hconflict
    cases hfound : conflict? text.length 0 (inOrder edits) with
    | some conflict =>
      refine ⟨conflict, ?_⟩
      unfold applyAll
      dsimp only
      rw [hfound]
    | none => exact absurd hconflict (not_conflicting_iff.mpr (conflict?_eq_none_iff.mp hfound).1)

theorem applyAll_eq_foldr_splice (h : ¬ Conflicting text.length edits) :
    applyAll edits text = .ok ((inOrder edits).foldr splice text) := by
  have hapart := not_conflicting_iff.mp h
  rw [applyAll_of_apart_inOrder hapart, rebuild_eq_foldr_splice hapart]

/-- `applyAll edits' text = applyAll edits text` if `edits'` are `edits` in another order that keeps
the insertions at each offset in theirs. -/
theorem applyAll_eq_of_perm (hperm : edits'.Perm edits)
    (hinsertions : ∀ offset, insertionsAt offset edits' = insertionsAt offset edits) (text : Text) :
    applyAll edits' text = applyAll edits text := by
  have hconflict : conflict? text.length 0 (inOrder edits') = conflict? text.length 0 (inOrder edits) :=
    conflict?_congr (map_span_inOrder_of_perm hperm)
  unfold applyAll
  dsimp only
  rw [hconflict]
  cases hfound : conflict? text.length 0 (inOrder edits) with
  | some conflict => rfl
  | none =>
    -- the edits are disjoint, so they have one order
    have hdisjoint := (apart_inOrder_iff.mp (conflict?_eq_none_iff.mp hfound).1).1
    rw [inOrder_eq_of_perm hperm hinsertions hdisjoint]

/-- Disjoint `edits` that replace something are accepted in any order, with one result `after`. -/
theorem applyAll_of_disjoint (hdisjoint : edits.Pairwise fun a b => a.span.Disjoint b.span)
    (hedits : ∀ edit ∈ edits, edit.span.start < edit.span.stop ∧ edit.span.stop ≤ text.length) :
    ∃ after, ∀ edits', edits'.Perm edits → applyAll edits' text = .ok after := by
  have happart := apart_inOrder hdisjoint fun edit hmem => (hedits edit hmem).2
  refine ⟨rebuild 0 text (inOrder edits), fun edits' hperm => ?_⟩
  have hnone : ∀ offset, ∀ l : List TextEdit, l.Perm edits → insertionsAt offset l = [] := by
    refine fun offset l hl => List.filter_eq_nil_iff.mpr fun edit hmem => ?_
    have hpos := (hedits edit (hl.mem_iff.mp hmem)).1
    simp only [decide_eq_true_eq]
    omega
  have hinsertions : ∀ offset, insertionsAt offset edits' = insertionsAt offset edits := fun offset =>
    (hnone offset edits' hperm).trans (hnone offset edits (List.Perm.refl edits)).symm
  rw [applyAll_eq_of_perm hperm hinsertions, applyAll_of_apart_inOrder happart]

/-- **A batch is a transaction.** `applyAll edits text` is refused iff an edit reaches beyond `text`
or edits at two places of the list overlap.  Otherwise it makes the edits one by one, from the last to
the first of the one list `ordered`: by their spans, and those of one span as they are given.  The
outcome is the same for every permutation `edits'` that keeps the insertions at each offset in their
order. -/
theorem applyAll_transaction (edits : List TextEdit) (text : Text) :
    ((∃ conflict, applyAll edits text = .error conflict) ↔
        (∃ edit ∈ edits, text.length < edit.span.stop)
          ∨ ∃ i j : Fin edits.length, i ≠ j ∧ edits[i].span.start < edits[j].span.stop
              ∧ edits[j].span.start < edits[i].span.stop)
      ∧ (∃! ordered, IsOrderOf ordered edits)
      ∧ (∀ ordered, IsOrderOf ordered edits →
          (∃ conflict, applyAll edits text = .error conflict)
            ∨ applyAll edits text = .ok (ordered.foldr splice text))
      ∧ ∀ edits' : List TextEdit, edits'.Perm edits →
          (∀ offset, insertionsAt offset edits' = insertionsAt offset edits) →
            applyAll edits' text = applyAll edits text := by
  refine ⟨applyAll_eq_error_iff, ⟨inOrder edits, isOrderOf_inOrder edits, ?_⟩, ?_, ?_⟩
  · exact fun ordered hordered => hordered.eq_inOrder
  · intro ordered hordered
    rw [hordered.eq_inOrder]
    by_cases hconflict : Conflicting text.length edits
    · exact Or.inl (applyAll_eq_error_iff.mpr hconflict)
    · exact Or.inr (applyAll_eq_foldr_splice hconflict)
  · exact fun edits' hperm hinsertions => applyAll_eq_of_perm hperm hinsertions text

/-- Two insertions stand where a replacement begins.  The batch may be rearranged around them, and it
is refused if an insertion falls into the replacement. -/
theorem applyAll_transaction_insertions :
    let replaced : TextEdit := ⟨⟨1, 3, by decide⟩, "Z".toList⟩
    let first : TextEdit := ⟨⟨1, 1, by decide⟩, "x".toList⟩
    let second : TextEdit := ⟨⟨1, 1, by decide⟩, "y".toList⟩
    let inside : TextEdit := ⟨⟨2, 2, by decide⟩, "w".toList⟩
    IsOrderOf [first, second, replaced] [replaced, first, second]
      ∧ applyAll [replaced, first, second] "abcd".toList = .ok "axyZd".toList
      ∧ applyAll [first, replaced, second] "abcd".toList = .ok "axyZd".toList
      ∧ ∃ conflict, applyAll [replaced, inside] "abcd".toList = .error conflict := by
  intro replaced first second inside
  have hordered : IsOrderOf [first, second, replaced] [replaced, first, second] :=
    isOrderOf_inOrder [replaced, first, second]
  obtain ⟨hrefused, -, hmade, hrearranged⟩ :=
    applyAll_transaction [replaced, first, second] "abcd".toList
  have happlied : applyAll [replaced, first, second] "abcd".toList = .ok "axyZd".toList := by
    rcases hmade _ hordered with hconflict | hok
    · exact absurd (hrefused.mp hconflict) (by decide)
    · exact hok
  have hperm : [first, replaced, second].Perm [replaced, first, second] := List.Perm.swap _ _ _
  have hinsertions : ∀ offset, insertionsAt offset [first, replaced, second]
      = insertionsAt offset [replaced, first, second] := fun offset => by
    have hnot : ¬ (replaced.span.start = offset ∧ replaced.span.stop = offset) := fun h =>
      absurd (h.1.trans h.2.symm) (by decide)
    simp only [insertionsAt, List.filter_cons, decide_eq_false hnot, Bool.false_eq_true, if_false]
  refine ⟨hordered, happlied, (hrearranged _ hperm hinsertions).trans happlied, ?_⟩
  exact (applyAll_transaction [replaced, inside] "abcd".toList).1.mpr (by decide)

end TextEdit

end CommentSpell
