import CommentSpell.Word.Mask
import CommentSpell.Proofs.Text.Segment

/-!
# Masking keeps places

Masking one call puts a space at each offset that a restatement of the call covers and keeps all other
characters (`getElem?_maskCall`).  So a masked text has the length of the text (`length_maskCalls`),
and each of its characters is the one of the text or a space (`Blanked`).  What is blanked by one call
stays blank when further calls are masked: in the spans of all restated calls the masked text is blank
(`getElem?_of_mem_blankedSpans`), and outside of them it is the text
(`getElem?_maskCalls_of_outside`).
-/

namespace CommentSpell

/-- `Blanked text masked` iff `masked` is `text` with some of its characters blanked. -/
def Blanked (text masked : Text) : Prop :=
  ∀ i, masked[i]? = text[i]? ∨ masked[i]? = some ' ' ∧ i < text.length

namespace Blanked

theorem refl (text : Text) : Blanked text text :=
  fun _ => Or.inl rfl

theorem getElem?_eq_none_iff {text masked : Text} (h : Blanked text masked) (i : Nat) :
    masked[i]? = none ↔ text[i]? = none := by
  rcases h i with hsame | ⟨hblank, hlt⟩
  · rw [hsame]
  · rw [hblank, List.getElem?_eq_getElem hlt]
    exact iff_of_false (Option.some_ne_none _) (Option.some_ne_none _)

theorem length_eq {text masked : Text} (h : Blanked text masked) :
    masked.length = text.length := by
  have hmasked := (h.getElem?_eq_none_iff text.length).mpr (List.getElem?_eq_none (Nat.le_refl _))
  have htext := (h.getElem?_eq_none_iff masked.length).mp (List.getElem?_eq_none (Nat.le_refl _))
  exact Nat.le_antisymm (List.getElem?_eq_none_iff.mp hmasked) (List.getElem?_eq_none_iff.mp htext)

theorem trans {text masked masked' : Text} (h : Blanked text masked)
    (h' : Blanked masked masked') : Blanked text masked' := by
  intro i
  rcases h' i with hsame | ⟨hblank, hlt⟩
  · rw [hsame]
    exact h i
  · rw [h.length_eq] at hlt
    exact Or.inr ⟨hblank, hlt⟩

/-- If `masked[i]? = some c` and `c` is not the space, then `text[i]? = some c`. -/
theorem getElem?_eq {text masked : Text} (h : Blanked text masked) {i : Nat} {c : Char}
    (hc : masked[i]? = some c) (hspace : c ≠ ' ') : text[i]? = some c := by
  rcases h i with hsame | ⟨hblank, -⟩
  · rw [← hsame, hc]
  · rw [hblank, Option.some.injEq] at hc
    exact absurd hc.symm hspace

/-- If `text[i]?` is the space, then so is `masked[i]?`. -/
theorem getElem?_eq_space {text masked : Text} (h : Blanked text masked) {i : Nat}
    (hspace : text[i]? = some ' ') : masked[i]? = some ' ' := by
  rcases h i with hsame | ⟨hblank, -⟩
  · rw [hsame, hspace]
  · exact hblank

/-- A `word` without a space that stands in `masked` at `i` stands in `text` at `i`. -/
theorem readsAt {text masked word : Text} (h : Blanked text masked) {i : Nat}
    (hreads : masked.ReadsAt word i) (hspace : ' ' ∉ word) : text.ReadsAt word i := by
  rw [Text.readsAt_iff_getElem?] at hreads ⊢
  intro j hj
  rw [← hreads j hj]
  have hmasked := hreads j hj
  rw [List.getElem?_eq_getElem hj] at hmasked
  rw [hmasked]
  exact h.getElem?_eq hmasked fun heq => hspace (heq ▸ List.getElem_mem hj)

end Blanked

/-! ### One call -/

theorem Segment.getElem?_flatMap_blank {α : Type} (segments : List (Segment α)) (start i : Nat) :
    (segments.flatMap (replaced fun _ hidden => hidden.map fun _ => ' '))[i]?
      = if (hitsFrom start segments).any (·.covers (start + i)) then some ' '
        else (segments.flatMap text)[i]? := by
  induction segments generalizing start i with
  | nil => rfl
  | cons segment segments ih =>
    rw [List.flatMap_cons, List.flatMap_cons]
    cases segment with
    | plain c =>
      rw [hitsFrom, replaced, text, List.singleton_append, List.singleton_append]
      cases i with
      | zero =>
        rw [not_covered_of_lt (show start + 0 < start + 1 by omega), if_neg Bool.false_ne_true,
          List.getElem?_cons_zero, List.getElem?_cons_zero]
      | succ i =>
        rw [List.getElem?_cons_succ, List.getElem?_cons_succ, ih (start + 1),
          Nat.add_assoc, Nat.add_comm 1]
    | hit value word =>
      rw [hitsFrom, replaced, text, List.any_cons]
      by_cases hlt : i < word.length
      · have hcovers : Hit.covers ⟨start, value, word⟩ (start + i) = true :=
          (Hit.covers_iff _ _).mpr ⟨Nat.le_add_right _ _, Nat.add_lt_add_left hlt _⟩
        rw [hcovers, Bool.true_or, if_pos rfl,
          List.getElem?_append_left (by rw [List.length_map]; exact hlt), List.getElem?_map,
          List.getElem?_eq_getElem hlt, Option.map_some]
      · have hcovers : Hit.covers ⟨start, value, word⟩ (start + i) = false := by
          rw [Bool.eq_false_iff, Ne, Hit.covers_iff, Hit.stop]
          dsimp only
          omega
        have hshift : start + word.length + (i - word.length) = start + i := by omega
        rw [hcovers, Bool.false_or, List.getElem?_append_right (by rw [List.length_map]; omega),
          List.getElem?_append_right (by omega), List.length_map, ih (start + word.length), hshift]

/-- `(maskCall text call)[i]?` is the space if a restatement of `call` covers `i`, and `text[i]?`
otherwise. -/
theorem getElem?_maskCall (text call : Text) (i : Nat) :
    (maskCall text call)[i]?
      = if (sites (restatedSite call) text).any (·.covers i) then some ' ' else text[i]? := by
  have h := Segment.getElem?_flatMap_blank (scan (restatedSite call) text) 0 i
  rw [Nat.zero_add, flatMap_text_scan] at h
  exact h

theorem restatedSite_eq_some {call : Text} {before : Option Char} {rest : Text} {value : Unit}
    {length : Nat} (h : restatedSite call before rest = some (value, length)) :
    freesCall before ∧ call <+: rest ∧ length = call.length := by
  unfold restatedSite at h
  split at h
  · rename_i hsite
    obtain ⟨-, rfl⟩ := Prod.mk.inj (Option.some.inj h)
    rw [Bool.and_eq_true, Text.startsWith_iff] at hsite
    exact ⟨hsite.1, hsite.2, rfl⟩
  · cases h

theorem restatedSite_fits (call : Text) : (restatedSite call).Fits := by
  intro before text value length h
  obtain ⟨-, hprefix, rfl⟩ := restatedSite_eq_some h
  exact hprefix.length_le

theorem blanked_maskCall (text call : Text) : Blanked text (maskCall text call) := by
  intro i
  rw [getElem?_maskCall]
  split
  · rename_i hcovered
    obtain ⟨hit, hmem, hcovers⟩ := List.any_eq_true.mp hcovered
    have hstop := (leftmostFrom_sites (restatedSite_fits call) text).stop_le_length hmem
    have hlt := ((hit.covers_iff i).mp hcovers).2
    exact Or.inr ⟨rfl, Nat.lt_of_lt_of_le hlt hstop⟩
  · exact Or.inl rfl

/-! ### All calls -/

/-- `blankedBy calls text` are the spans that are blanked when `calls` are masked one after the other,
in `text` as the earlier ones have left it. -/
def blankedBy : (calls : List Text) → Text → List Span
  | [], _ => []
  | call :: calls, text =>
    (sites (restatedSite call) text).map (fun hit => .ofLength hit.start hit.text.length)
      ++ blankedBy calls (maskCall text call)

/-- `blankedSpans identifiers text` are the spans of the restated calls that
`maskCalls identifiers text` blanks. -/
def blankedSpans (identifiers : List Text) (text : Text) : List Span :=
  blankedBy (restatedCalls identifiers text) text

theorem blanked_foldl_maskCall (calls : List Text) (text : Text) :
    Blanked text (calls.foldl maskCall text) := by
  induction calls generalizing text with
  | nil => exact .refl text
  | cons call calls ih => exact (blanked_maskCall text call).trans (ih _)

theorem blanked_maskCalls (identifiers : List Text) (text : Text) :
    Blanked text (maskCalls identifiers text) :=
  blanked_foldl_maskCall _ text

theorem length_maskCalls (identifiers : List Text) (text : Text) :
    (maskCalls identifiers text).length = text.length :=
  (blanked_maskCalls identifiers text).length_eq

theorem getElem?_of_mem_blankedBy {calls : List Text} {text : Text} {span : Span}
    (h : span ∈ blankedBy calls text) {i : Nat} (hstart : span.start ≤ i) (hstop : i < span.stop) :
    (calls.foldl maskCall text)[i]? = some ' ' := by
  induction calls generalizing text with
  | nil => cases h
  | cons call calls ih =>
    rw [blankedBy, List.mem_append] at h
    rcases h with h | h
    · -- blanked by this call, and then left blank by the later ones
      obtain ⟨hit, hmem, rfl⟩ := List.mem_map.mp h
      refine (blanked_foldl_maskCall calls _).getElem?_eq_space ?_
      rw [getElem?_maskCall, if_pos]
      exact List.any_eq_true.mpr ⟨hit, hmem, (hit.covers_iff i).mpr ⟨hstart, hstop⟩⟩
    · exact ih h

theorem getElem?_of_outside_blankedBy {calls : List Text} {text : Text} {i : Nat}
    (h : ∀ span ∈ blankedBy calls text, i < span.start ∨ span.stop ≤ i) :
    (calls.foldl maskCall text)[i]? = text[i]? := by
  induction calls generalizing text with
  | nil => rfl
  | cons call calls ih =>
    rw [List.foldl_cons, ih fun span hmem => h span (List.mem_append_right _ hmem),
      getElem?_maskCall, if_neg]
    intro hcovered
    obtain ⟨hit, hmem, hcovers⟩ := List.any_eq_true.mp hcovered
    have hwithin := (hit.covers_iff i).mp hcovers
    rcases h _ (List.mem_append_left _ (List.mem_map.mpr ⟨hit, hmem, rfl⟩)) with hlt | hge
    · exact Nat.not_le.mpr hlt hwithin.1
    · exact Nat.not_lt.mpr hge hwithin.2

theorem start_lt_stop_of_mem_blankedBy {calls : List Text} {text : Text} {span : Span}
    (h : span ∈ blankedBy calls text) : span.start < span.stop := by
  induction calls generalizing text with
  | nil => cases h
  | cons call calls ih =>
    rw [blankedBy, List.mem_append] at h
    rcases h with h | h
    · obtain ⟨hit, hmem, rfl⟩ := List.mem_map.mp h
      exact (leftmostFrom_sites (restatedSite_fits call) text).start_lt_stop hmem
    · exact ih h

/-- `maskCalls identifiers text = text` if no call is among `identifiers`. -/
theorem maskCalls_eq_self {identifiers : List Text}
    (h : ∀ identifier ∈ identifiers, Identifier.isCall identifier = false) (text : Text) :
    maskCalls identifiers text = text := by
  have hnone : identifiers.filter (fun identifier =>
      Identifier.isCall identifier && Text.contains identifier text) = [] :=
    List.filter_eq_nil_iff.mpr fun identifier hmem => by simp [h identifier hmem]
  rw [maskCalls, restatedCalls, hnone]
  rfl

/-- `maskCalls identifiers text` is blank at each offset `i` of a span of
`blankedSpans identifiers text`. -/
theorem getElem?_of_mem_blankedSpans {identifiers : List Text} {text : Text} {span : Span}
    (h : span ∈ blankedSpans identifiers text) {i : Nat} (hstart : span.start ≤ i)
    (hstop : i < span.stop) : (maskCalls identifiers text)[i]? = some ' ' :=
  getElem?_of_mem_blankedBy h hstart hstop

/-- `(maskCalls identifiers text)[i]? = text[i]?` if `i` lies outside all spans of
`blankedSpans identifiers text`. -/
theorem getElem?_maskCalls_of_outside {identifiers : List Text} {text : Text} {i : Nat}
    (h : ∀ span ∈ blankedSpans identifiers text, i < span.start ∨ span.stop ≤ i) :
    (maskCalls identifiers text)[i]? = text[i]? :=
  getElem?_of_outside_blankedBy h

end CommentSpell
