import CommentSpell.Proofs.Report.Completeness
import CommentSpell.Proofs.Report.Soundness

/-!
# Ignoring what was reported

Where a period stands between two other characters of a word, the token of the word is joined from
parts that stand apart.  Such a token is searched like any other, and if it stands behind its word as a
word of its own, the search goes on from there and passes over the tokens between.  If no joined token
stands anywhere (`JoinedApart`), the cursor never passes the word whose token comes next, so each flagged
token is located, or stands nowhere (`located_or_absent`).

Then a source has no diagnostics once the words of all its diagnostics are ignored
(`placeAll_ignoring`).
-/

namespace CommentSpell

/-- The token of `word`, a run of `text` without inner periods, stands within `word`. -/
theorem Placement.exists_standsAt_of_noInnerPeriod {text : Text} {word : Span}
    (hword : Text.IsRun (!isSeparator ·) text word) (h : NoInnerPeriod (word.slice text))
    (hne : undotted (word.slice text) ≠ []) :
    ∃ i, i + (undotted (word.slice text)).length ≤ word.stop ∧ word.start ≤ i
      ∧ StandsAt (undotted (word.slice text)) text i := by
  obtain ⟨run, hrun, hslice⟩ := exists_run_of_noInnerPeriod h hne
  have hstop := hrun.stop_le_length
  have hlength := hrun.length_slice
  have hspan := run.start_le_stop
  have hwordSpan := word.start_le_stop
  rw [hword.length_slice] at hstop
  have hstands := standsAt_of_isRun (hword.inner hrun)
  rw [← Text.slice_slice hstop, hslice] at hstands
  refine ⟨word.start + run.start, ?_, Nat.le_add_right _ _, hstands⟩
  rw [← hslice, hlength, Span.length]
  rw [Span.length] at hstop
  omega

namespace Judge

variable {judge : Judge} {text : Text}

/-- `judge.JoinedApart text` iff no flagged token that is joined from a word of `text` with inner
periods stands in `text` as a word of its own. -/
def JoinedApart (judge : Judge) (text : Text) : Prop :=
  ∀ word, Text.IsRun (!isSeparator ·) text word → judge.Flags (undotted (word.slice text)) →
    NoInnerPeriod (word.slice text)
      ∨ ∀ i, ¬ Placement.StandsAt (undotted (word.slice text)) text i

instance (judge : Judge) (text : Text) : Decidable (judge.JoinedApart text) :=
  decidable_of_iff (∀ word ∈ Text.runs (!isSeparator ·) text,
      judge.Flags (undotted (word.slice text)) → NoInnerPeriod (word.slice text)
        ∨ Placement.find? (undotted (word.slice text)) text 0 = none) <| by
    refine forall_congr' fun word => imp_congr Text.mem_runs_iff (imp_congr_right fun _ => ?_)
    rw [Placement.find?_eq_none_iff]
    simp only [Nat.zero_le, forall_const]

/-- `judge.misspellingAt? text word` is what is reported for the run `word` of `text`, if its token is
flagged. -/
def misspellingAt? (judge : Judge) (text : Text) (word : Span) : Option Misspelling :=
  if judge.Flags (undotted (word.slice text)) then
    some (judge.misspellingOf (undotted (word.slice text)))
  else none

/-- `judge.misspellings text` are those of the words of the masked text, one by one. -/
theorem misspellings_eq_filterMap_runs (hmin : 1 ≤ judge.minWordLength) (text : Text) :
    judge.misspellings text
      = (Text.runs (!isSeparator ·) (maskCalls judge.identifiers text)).filterMap
          (judge.misspellingAt? (maskCalls judge.identifiers text)) := by
  have hruns := Text.map_slice_runs (!isSeparator ·) (maskCalls judge.identifiers text)
  simp only [Bool.not_not] at hruns
  have hwords : (Text.runs (!isSeparator ·) (maskCalls judge.identifiers text)).filterMap
        (judge.misspellingAt? (maskCalls judge.identifiers text))
      = ((Text.runs (!isSeparator ·) (maskCalls judge.identifiers text)).map
          (·.slice (maskCalls judge.identifiers text))).filterMap
            fun word => (judge.verdict (undotted word)).misspelling? := by
    rw [List.filterMap_map]
    refine List.filterMap_congr fun word _ => ?_
    rw [Function.comp, misspelling?_verdict]
    rfl
  rw [misspellings_eq_filterMap_pieces hmin, hwords, hruns, List.filterMap_filter]
  refine List.filterMap_congr fun word _ => ?_
  by_cases hnil : word = []
  · -- the empty piece has no letters
    have hflags : ¬ judge.Flags (undotted []) := fun h => h.cleanWord_ne_nil hmin rfl
    simp [hnil, misspelling?_verdict, hflags]
  · simp [hnil]

/-- The token of a flagged `word` behind `cursor` stands nowhere in `text`, or is found at an `offset`
from which it does not reach beyond `word`. -/
theorem absent_or_find?_eq_some (hmin : 1 ≤ judge.minWordLength) (h : judge.JoinedApart text)
    {word : Span} (hword : Text.IsRun (!isSeparator ·) text word)
    (hflags : judge.Flags (undotted (word.slice text))) {cursor : Nat} (hcursor : cursor ≤ word.start) :
    (∀ i, ¬ Placement.StandsAt (undotted (word.slice text)) text i)
      ∨ ∃ offset, Placement.find? (undotted (word.slice text)) text cursor = some offset
          ∧ offset + (undotted (word.slice text)).length ≤ word.stop := by
  have hne : undotted (word.slice text) ≠ [] := by
    intro hnil
    rw [hnil] at hflags
    exact hflags.cleanWord_ne_nil hmin rfl
  rcases h word hword hflags with hinner | habsent
  · right
    obtain ⟨i, hstop, hi, hstands⟩ := Placement.exists_standsAt_of_noInnerPeriod hword hinner hne
    cases hfound : Placement.find? (undotted (word.slice text)) text cursor with
    | none => exact absurd hstands (Placement.find?_eq_none_iff.mp hfound i (Nat.le_trans hcursor hi))
    | some offset =>
      obtain ⟨-, -, hfirst⟩ := Placement.find?_eq_some_iff.mp hfound
      have hoffset : offset ≤ i := by
        by_contra hlt
        exact hfirst i (Nat.le_trans hcursor hi) (Nat.not_le.mp hlt) hstands
      exact ⟨offset, rfl, by omega⟩
  · exact Or.inl habsent

/-- If `cursor` has not passed the `words` that are left, each of their misspellings is located, or
its token stands nowhere in `text`. -/
theorem located_or_absent (hmin : 1 ≤ judge.minWordLength) (h : judge.JoinedApart text)
    {words : List Span} {cursor : Nat}
    (hwords : ∀ word ∈ words, Text.IsRun (!isSeparator ·) text word ∧ cursor ≤ word.start)
    (hordered : words.Pairwise fun a b => a.stop < b.start) :
    ∀ m ∈ words.filterMap (judge.misspellingAt? text),
      (∃ i, (i, m) ∈ Placement.locate text cursor (words.filterMap (judge.misspellingAt? text)))
        ∨ ∀ i, ¬ Placement.StandsAt m.token text i := by
  induction words generalizing cursor with
  | nil =>
    intro m hm
    cases hm
  | cons word words ih =>
    obtain ⟨⟨hword, hcursor⟩, hlater⟩ := List.forall_mem_cons.mp hwords
    obtain ⟨hbehind, hordered⟩ := List.pairwise_cons.mp hordered
    by_cases hflags : judge.Flags (undotted (word.slice text))
    · have hsome : judge.misspellingAt? text word
          = some (judge.misspellingOf (undotted (word.slice text))) := if_pos hflags
      rw [List.filterMap_cons_some hsome, Placement.locate, List.forall_mem_cons]
      rcases absent_or_find?_eq_some hmin h hword hflags hcursor with habsent | ⟨offset, hfound, hstop⟩
      · -- the token is not found, so the cursor stays
        have hnone : Placement.find? (judge.misspellingOf (undotted (word.slice text))).token text
            cursor = none := Placement.find?_eq_none_iff.mpr fun i _ => habsent i
        rw [hnone]
        exact ⟨Or.inr habsent, ih hlater hordered⟩
      · -- the token is found, and the cursor moves to a place before the next word
        have hcursor' : ∀ later ∈ words, Text.IsRun (!isSeparator ·) text later
            ∧ offset + (undotted (word.slice text)).length ≤ later.start := by
          intro later hmem
          have := hbehind later hmem
          exact ⟨(hlater later hmem).1, by omega⟩
        have hfound' : Placement.find? (judge.misspellingOf (undotted (word.slice text))).token text
            cursor = some offset := hfound
        rw [hfound']
        refine ⟨Or.inl ⟨offset, List.mem_cons_self⟩, fun m hm => ?_⟩
        rcases ih hcursor' hordered m hm with ⟨j, hj⟩ | habsent
        · exact Or.inl ⟨j, List.mem_cons_of_mem _ hj⟩
        · exact Or.inr habsent
    · have hnone : judge.misspellingAt? text word = none := if_neg hflags
      rw [List.filterMap_cons_none hnone]
      exact ih hlater hordered

/-- A misspelling `m` of `comment` has a diagnostic with `m.cleaned` as its code, or its token stands
nowhere in the masked comment. -/
theorem exists_diagnostic_or_absent (hmin : 1 ≤ judge.minWordLength) {comment : Comment}
    (h : judge.JoinedApart (maskCalls judge.identifiers comment.text)) (severity : Severity)
    {m : Misspelling} (hm : m ∈ judge.misspellings comment.text) :
    (∃ diagnostic
        ∈ comment.place (judge.misspellings comment.text) severity judge.identifiers,
        diagnostic.code = m.cleaned)
      ∨ ∀ i, ¬ Placement.StandsAt m.token (maskCalls judge.identifiers comment.text) i := by
  have hwords : ∀ word ∈ Text.runs (!isSeparator ·) (maskCalls judge.identifiers comment.text),
      Text.IsRun (!isSeparator ·) (maskCalls judge.identifiers comment.text) word
        ∧ 0 ≤ word.start :=
    fun word hmem => ⟨Text.mem_runs_iff.mp hmem, Nat.zero_le _⟩
  have hlocated := located_or_absent hmin h hwords (Text.pairwise_runs _ _)
  rw [← misspellings_eq_filterMap_runs hmin] at hlocated
  rcases hlocated m hm with ⟨i, hi⟩ | habsent
  · exact Or.inl ⟨_, List.mem_map_of_mem hi, rfl⟩
  · exact Or.inr habsent

/-- `judge.ignoring ignored` is `judge` with the words `ignored`. -/
def ignoring (judge : Judge) (ignored : List Text) : Judge :=
  { judge with ignored }

theorem flags_ignoring_iff {ignored : List Text} (hmore : ∀ word ∈ judge.ignored, word ∈ ignored)
    {token : Text} :
    (judge.ignoring ignored).Flags token ↔ judge.Flags token ∧ cleanWord token ∉ ignored := by
  constructor
  · intro h
    have hnot : cleanWord token ∉ ignored := h.not_ignored
    exact ⟨⟨h.token_not_mem, h.minWordLength_le, h.word_not_mem,
      fun hmem => hnot (hmore _ hmem), h.not_accepted⟩, hnot⟩
  · rintro ⟨h, hnot⟩
    exact ⟨h.token_not_mem, h.minWordLength_le, h.word_not_mem, hnot, h.not_accepted⟩

/-- **Ignoring what was reported silences a source**:
`(judge.ignoring ignored).placeAll severity source = []` if `ignored` has the words of all diagnostics
of `source`, and no joined token stands in a comment as a word of its own. -/
theorem placeAll_ignoring (hmin : 1 ≤ judge.minWordLength) {source : Text} {severity : Severity}
    (h : ∀ comment ∈ Comment.extract source,
      judge.JoinedApart (maskCalls judge.identifiers comment.text))
    {ignored : List Text} (hmore : ∀ word ∈ judge.ignored, word ∈ ignored)
    (hcodes : ∀ diagnostic ∈ judge.placeAll severity source, diagnostic.code ∈ ignored) :
    (judge.ignoring ignored).placeAll severity source = [] := by
  unfold placeAll
  refine List.flatMap_eq_nil_iff.mpr fun comment hcomment => List.map_eq_nil_iff.mpr ?_
  show Placement.locate (maskCalls judge.identifiers comment.text) 0 _ = []
  refine Placement.locate_eq_nil fun m hm => ?_
  obtain ⟨token, htoken, hflags, rfl⟩ := mem_misspellings_iff.mp hm
  obtain ⟨hflags, hnot⟩ := (flags_ignoring_iff hmore).mp hflags
  have hreported : judge.misspellingOf token ∈ judge.misspellings comment.text :=
    mem_misspellings_iff.mpr ⟨token, htoken, hflags, rfl⟩
  refine (exists_diagnostic_or_absent hmin (h comment hcomment) severity hreported).resolve_left ?_
  rintro ⟨diagnostic, hdiagnostic, hcode⟩
  have hmem := hcodes diagnostic (List.mem_flatMap.mpr ⟨comment, hcomment, hdiagnostic⟩)
  rw [hcode] at hmem
  exact hnot hmem

end Judge

end CommentSpell
