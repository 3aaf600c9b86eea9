import CommentSpell.Proofs.Edit.Transaction
import CommentSpell.Proofs.Text.Segment
import Mathlib.Data.List.Pairwise

/-!
# Leftmost sets of spans

A scan from the left chooses some of the sites of a text.  As a set of spans the choice is described
without the scan: its spans do not overlap, and every other site overlaps a chosen one that starts
earlier (`IsLeftmostSet`).  There is only one such set, as whether a site is chosen depends on the earlier
ones only (`IsLeftmostSet.unique`), and the values of a scan are those of the sites in it
(`exists_isLeftmostSet`).
-/

namespace CommentSpell

variable {α : Type}

/-- `IsLeftmostSet isSite chosen` iff `chosen` consists of spans with `isSite`, no two of them
overlap, and every other span with `isSite` overlaps an earlier one in `chosen`. -/
structure IsLeftmostSet (isSite : Span → Prop) (chosen : Set Span) : Prop where
  isSite_of_mem : ∀ span ∈ chosen, isSite span
  disjoint : chosen.Pairwise Span.Disjoint
  leftmost : ∀ span, isSite span → span ∉ chosen →
    ∃ earlier ∈ chosen, earlier.start < span.start ∧ earlier.Overlaps span

namespace IsLeftmostSet

variable {isSite : Span → Prop} {chosen chosen' : Set Span}

/-- If `chosen` has all spans of `chosen'` that start before `span`, then `span ∈ chosen` gives
`span ∈ chosen'`. -/
theorem mem_of_mem (h : IsLeftmostSet isSite chosen) (h' : IsLeftmostSet isSite chosen') {span : Span}
    (hearlier : ∀ earlier ∈ chosen', earlier.start < span.start → earlier ∈ chosen)
    (hmem : span ∈ chosen) : span ∈ chosen' := by
  by_contra hnot
  obtain ⟨earlier, hchosen, hlt, hoverlaps⟩ := h'.leftmost span (h.isSite_of_mem span hmem) hnot
  have hne : earlier ≠ span := fun heq => Nat.ne_of_lt hlt (congrArg Span.start heq)
  exact Span.not_overlaps_iff.mpr (h.disjoint (hearlier earlier hchosen hlt) hmem hne) hoverlaps

/-- `isSite` has only one leftmost set: `chosen = chosen'`. -/
theorem unique (h : IsLeftmostSet isSite chosen) (h' : IsLeftmostSet isSite chosen') :
    chosen = chosen' := by
  suffices hmem : ∀ n, ∀ span : Span, span.start = n → (span ∈ chosen ↔ span ∈ chosen') from
    Set.ext fun span => hmem _ span rfl
  intro n
  induction n using Nat.strongRecOn with
  | ind n ih =>
    rintro span rfl
    exact ⟨h.mem_of_mem h' fun earlier hchosen hlt => (ih _ hlt earlier rfl).mpr hchosen,
      h'.mem_of_mem h fun earlier hchosen hlt => (ih _ hlt earlier rfl).mp hchosen⟩

end IsLeftmostSet

/-! ### The spans of a scan -/

/-- `hit.span` are the offsets of the text that `hit` takes up. -/
def Hit.span (hit : Hit α) : Span :=
  .ofLength hit.start hit.text.length

theorem Hit.length_span (hit : Hit α) : hit.span.length = hit.text.length :=
  Nat.add_sub_cancel_left ..

theorem Segment.values_eq_map_hitsFrom (segments : List (Segment α)) (start : Nat) :
    values segments = (hitsFrom start segments).map Hit.value := by
  induction segments generalizing start with
  | nil => rfl
  | cons segment segments ih =>
    cases segment with
    | plain c =>
      rw [values, hitsFrom]
      exact ih (start + 1)
    | hit value text =>
      rw [values, hitsFrom, List.map_cons]
      exact congrArg (value :: ·) (ih (start + text.length))

variable {site : Site α} {text : Text} {hits : List (Hit α)}

/-- If `hits` is leftmost from offset zero on, then the spans of `hits` are the leftmost set of the
sites of `text`. -/
theorem LeftmostFrom.isLeftmostSet (h : LeftmostFrom site text 0 hits) :
    IsLeftmostSet (fun span => ∃ value, site.StartsAt text span.start value span.length)
      {span | span ∈ hits.map Hit.span} where
  isSite_of_mem := by
    intro span hmem
    obtain ⟨hit, hhit, rfl⟩ := List.mem_map.mp hmem
    rw [hit.length_span]
    exact ⟨hit.value, h.isSite hit hhit⟩
  disjoint := by
    have : Std.Symm Span.Disjoint := ⟨fun _ _ => Span.Disjoint.symm⟩
    have hpairwise : (hits.map Hit.span).Pairwise Span.Disjoint :=
      List.pairwise_map.mpr (h.apart.imp Or.inl)
    exact hpairwise.set_pairwise
  leftmost := by
    rintro span ⟨value, hstarts⟩ hnot
    -- the span starts within a hit, as no site starts outside of all hits
    obtain ⟨hit, hmem, hstart, hstop⟩ : ∃ hit ∈ hits, hit.start ≤ span.start ∧ span.start < hit.stop := by
      by_contra hout
      refine h.complete span.start (Nat.zero_le _) (fun hit hmem => ?_) value span.length hstarts
      by_contra hwithin
      exact hout ⟨hit, hmem, by omega⟩
    refine ⟨hit.span, List.mem_map_of_mem hmem, Nat.lt_of_le_of_ne hstart fun heq => ?_, ?_⟩
    · -- at one offset there is one site only
      have hsite := (h.isSite hit hmem).1
      change hit.start = span.start at heq
      rw [heq, hstarts.1, Option.some.injEq, Prod.mk.injEq] at hsite
      refine hnot (List.mem_map.mpr ⟨hit, hmem, Span.ext heq ?_⟩)
      show hit.start + hit.text.length = span.stop
      rw [heq, ← hsite.2, Span.length, Nat.add_sub_cancel' span.start_le_stop]
    · have hpos : 0 < span.stop - span.start := hstarts.2
      exact ⟨show hit.start < span.stop by omega, hstop⟩

/-- **The values of a scan.** There is one leftmost set `chosen` of the spans at which `isSite` holds
for some value, and `value` is among the values of `scan site text` iff `isSite span value` for a
`span ∈ chosen`. -/
theorem exists_isLeftmostSet {isSite : Span → α → Prop} (hfits : site.Fits) (text : Text)
    (hsite : ∀ span value, site.StartsAt text span.start value span.length ↔ isSite span value) :
    ∃ chosen, (∀ spans, IsLeftmostSet (fun span => ∃ value, isSite span value) spans ↔ spans = chosen)
      ∧ ∀ value, value ∈ Segment.values (scan site text) ↔ ∃ span ∈ chosen, isSite span value := by
  have hleftmost := leftmostFrom_sites hfits text
  have hchosen := hleftmost.isLeftmostSet
  simp only [hsite] at hchosen
  refine ⟨_, fun spans => ⟨fun hspans => hspans.unique hchosen, fun heq => heq ▸ hchosen⟩,
    fun value => ?_⟩
  rw [Segment.values_eq_map_hitsFrom _ 0, List.mem_map]
  constructor
  · rintro ⟨hit, hmem, rfl⟩
    refine ⟨hit.span, List.mem_map_of_mem hmem, (hsite _ _).mp ?_⟩
    rw [hit.length_span]
    exact hleftmost.isSite hit hmem
  · rintro ⟨span, hspan, hvalue⟩
    obtain ⟨hit, hmem, rfl⟩ := List.mem_map.mp hspan
    have hstarts := ((hsite _ _).mpr hvalue).1
    have hfound := (hleftmost.isSite hit hmem).1
    change site (text.charBefore hit.start) (text.drop hit.start) = _ at hstarts
    rw [hstarts, Option.some.injEq, Prod.mk.injEq] at hfound
    exact ⟨hit, hmem, hfound.1.symm⟩

end CommentSpell
