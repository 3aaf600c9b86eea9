import CommentSpell.Proofs.Report.Placement
import CommentSpell.Proofs.Word.Mask
import CommentSpell.Proofs.Word.Token
import CommentSpell.Proofs.Word.Verdict

/-!
# Every flagged token is placed

Detection keeps the tokens and forgets where they stood; placement looks for them again, one after the
other.  A token stands exactly where a maximal run of its characters has its letters
(`isRun_of_standsAt`, `standsAt_of_isRun`), and equal tokens are flagged alike.  So when all flagged
runs before the cursor are placed, the next one is found where it is: had its token stood between the
cursor and it, that place would be a flagged run too (`locate_flagged`).  Where no period stands within
a run of non-separators, the diagnostics are therefore those of the flagged runs (`place_complete`).
-/

namespace CommentSpell

namespace Placement

/-! ### Standing tokens and runs -/

theorem delimits_iff {neighbour : Option Char} :
    delimits neighbour ↔ ∀ c ∈ neighbour, isTokenChar c = false := by
  cases neighbour with
  | none => simp [delimits]
  | some c => simp [delimits, ← not_isTokenChar]

theorem isRun_of_standsAt {token text : Text} {i : Nat} (hne : token ≠ [])
    (hchars : ∀ c ∈ token, isTokenChar c) (h : StandsAt token text i) :
    Text.IsRun isTokenChar text (.ofLength i token.length) where
  start_lt_stop := Nat.lt_add_of_pos_right (List.length_pos_iff.mpr hne)
  stop_le_length := h.reads.add_length_le hne
  within := by
    intro j hstart hstop c hc
    have hj : j - i < token.length := Nat.sub_lt_left_of_lt_add hstart hstop
    have hchar := (List.prefix_iff_getElem?.mp h.reads) (j - i) hj
    rw [List.getElem?_drop, show i + (j - i) = j from Nat.add_sub_cancel' hstart] at hchar
    rw [hchar] at hc
    obtain rfl := Option.some.inj hc
    exact hchars _ (List.getElem_mem hj)
  before := delimits_iff.mp h.before
  after := delimits_iff.mp h.after

theorem standsAt_of_isRun {text : Text} {span : Span} (h : Text.IsRun isTokenChar text span) :
    StandsAt (span.slice text) text span.start where
  le_length := Nat.le_trans span.start_le_stop h.stop_le_length
  reads := List.take_prefix _ _
  before := delimits_iff.mpr h.before
  after := by
    have hstop : span.start + span.length = span.stop := Nat.add_sub_cancel' span.start_le_stop
    rw [h.length_slice, hstop]
    exact delimits_iff.mpr h.after

end Placement

namespace Judge

/-! ### Flagged runs -/

/-- `judge.flaggedRuns text` are the maximal runs of token characters of `text` that nothing excuses. -/
def flaggedRuns (judge : Judge) (text : Text) : List Span :=
  (Text.runs isTokenChar text).filter fun run => judge.Flags (run.slice text)

theorem mem_flaggedRuns_iff {judge : Judge} {text : Text} {run : Span} :
    run ∈ judge.flaggedRuns text
      ↔ Text.IsRun isTokenChar text run ∧ judge.Flags (run.slice text) := by
  rw [flaggedRuns, List.mem_filter, Text.mem_runs_iff, decide_eq_true_eq]

theorem pairwise_flaggedRuns (judge : Judge) (text : Text) :
    (judge.flaggedRuns text).Pairwise fun a b => a.stop < b.start :=
  (Text.pairwise_runs isTokenChar text).filter _

/-- `judge.misspellings text` are those of the flagged runs of the masked `text`, if no run of
non-separators there has an inner period. -/
theorem misspellings_eq_map_flaggedRuns {judge : Judge} {text : Text}
    (h : NoInnerPeriods (maskCalls judge.identifiers text)) :
    judge.misspellings text
      = (judge.flaggedRuns (maskCalls judge.identifiers text)).map fun run =>
          judge.misspellingOf (run.slice (maskCalls judge.identifiers text)) := by
  rw [misspellings_eq, tokenize_eq_map_slice_runs h, List.filter_map, List.map_map]
  rfl

/-- If `flagged` are the flagged runs of `text` from `cursor` on, in their order, then `locate` finds
their tokens where they are. -/
theorem locate_flagged {judge : Judge} {text : Text} {flagged : List Span} {cursor : Nat}
    (hflagged : ∀ run, run ∈ flagged
      ↔ (Text.IsRun isTokenChar text run ∧ judge.Flags (run.slice text)) ∧ cursor ≤ run.start)
    (hordered : flagged.Pairwise fun a b => a.stop < b.start) :
    Placement.locate text cursor (flagged.map fun run => judge.misspellingOf (run.slice text))
      = flagged.map fun run => (run.start, judge.misspellingOf (run.slice text)) := by
  induction flagged generalizing cursor with
  | nil => rfl
  | cons run flagged ih =>
    obtain ⟨⟨hrun, hflags⟩, hcursor⟩ := (hflagged run).mp List.mem_cons_self
    obtain ⟨hbehind, hordered⟩ := List.pairwise_cons.mp hordered
    have hstart := hrun.start_lt_stop
    have hfind : Placement.find? (judge.misspellingOf (run.slice text)).token text cursor
        = some run.start := by
      refine Placement.find?_eq_some_iff.mpr
        ⟨hcursor, Placement.standsAt_of_isRun hrun, fun j hj hlt hstands => ?_⟩
      -- an earlier place of the token would be an earlier flagged run
      have hearlier := Placement.isRun_of_standsAt hrun.slice_ne_nil (fun c => hrun.of_mem_slice)
        hstands
      have hslice := Text.readsAt_iff_slice_eq.mp hstands.reads
      have hmem := (hflagged _).mpr ⟨⟨hearlier, hslice.symm ▸ hflags⟩, hj⟩
      rcases List.mem_cons.mp hmem with heq | hmem
      · exact absurd (congrArg Span.start heq) (Nat.ne_of_lt hlt)
      · have := hbehind _ hmem
        have hstart' : (Span.ofLength j (run.slice text).length).start = j := rfl
        omega
    have hstop : run.start + (judge.misspellingOf (run.slice text)).token.length = run.stop := by
      show run.start + (run.slice text).length = run.stop
      rw [hrun.length_slice]
      exact Nat.add_sub_cancel' run.start_le_stop
    rw [List.map_cons, List.map_cons, Placement.locate, hfind]
    dsimp only
    rw [hstop, ih (fun later => ?_) hordered]
    -- what is left are the flagged runs from the end of this one on
    constructor
    · intro hmem
      exact ⟨((hflagged later).mp (List.mem_cons_of_mem _ hmem)).1, Nat.le_of_lt (hbehind later hmem)⟩
    · rintro ⟨hlater, hle⟩
      have hmem := (hflagged later).mpr ⟨hlater, by omega⟩
      rcases List.mem_cons.mp hmem with rfl | hmem
      · exact absurd hle (Nat.not_le.mpr hstart)
      · exact hmem

end Judge

/-- **Placement is complete**: if no period stands between two other characters of a run of
non-separators of the `masked` comment, no misspelling is left out.  The runs `flagged` of `masked`, in
their order, give the `misspellings` one by one, and the `diagnostics` one by one; each diagnostic
marks its run. -/
theorem Comment.place_complete (judge : Judge) (comment : Comment) (severity : Severity)
    (hperiods : NoInnerPeriods (maskCalls judge.identifiers comment.text)) :
    let masked := maskCalls judge.identifiers comment.text
    let misspellings := judge.misspellings comment.text
    let diagnostics := comment.place misspellings severity judge.identifiers
    ∃ flagged : List Span,
      flagged.Pairwise (fun a b => a.stop < b.start)
        ∧ (∀ run, run ∈ flagged
            ↔ Text.IsRun isTokenChar masked run ∧ judge.Flags (run.slice masked))
        ∧ misspellings = flagged.map (fun run => judge.misspellingOf (run.slice masked))
        ∧ diagnostics = flagged.map (fun run =>
            comment.diagnosticAt severity run.start (judge.misspellingOf (run.slice masked)))
        ∧ diagnostics.map Diagnostic.span
            = flagged.map (fun run => .ofLength (comment.start + run.start) run.length)
        ∧ diagnostics.length = misspellings.length := by
  intro masked misspellings diagnostics
  have hmisspellings : misspellings = (judge.flaggedRuns masked).map fun run =>
      judge.misspellingOf (run.slice masked) :=
    Judge.misspellings_eq_map_flaggedRuns hperiods
  have hall : ∀ run, run ∈ judge.flaggedRuns masked
      ↔ (Text.IsRun isTokenChar masked run ∧ judge.Flags (run.slice masked)) ∧ 0 ≤ run.start := by
    intro run
    rw [Judge.mem_flaggedRuns_iff, and_iff_left (Nat.zero_le run.start)]
  have hlocate := Judge.locate_flagged hall (judge.pairwise_flaggedRuns masked)
  have hdiagnostics : diagnostics = (judge.flaggedRuns masked).map fun run =>
      comment.diagnosticAt severity run.start (judge.misspellingOf (run.slice masked)) := by
    show (Placement.locate masked 0 misspellings).map _ = _
    rw [hmisspellings, hlocate, List.map_map]
    rfl
  refine ⟨judge.flaggedRuns masked, judge.pairwise_flaggedRuns masked,
    fun run => Judge.mem_flaggedRuns_iff, hmisspellings, hdiagnostics, ?_, ?_⟩
  · rw [hdiagnostics, List.map_map]
    refine List.map_congr_left fun run hmem => ?_
    have hlength := (Judge.mem_flaggedRuns_iff.mp hmem).1.length_slice
    show Span.ofLength (comment.start + run.start) (run.slice masked).length = _
    rw [hlength]
  · rw [hdiagnostics, hmisspellings, List.length_map, List.length_map]

/-- A word that stands alone twice, once within a masked call and once within a longer word. -/
theorem Comment.place_complete_single :
    let judge : Judge := .single "the".toList ["sum(teh)".toList]
    let comment : Comment := { text := "// teh sum(teh) ateh .teh.".toList, start := 7 }
    NoInnerPeriods (maskCalls judge.identifiers comment.text)
      ∧ (comment.place (judge.misspellings comment.text) .warning judge.identifiers).map
          Diagnostic.span = [.ofLength 10 3, .ofLength 23 4, .ofLength 29 3]
      ∧ (comment.place (judge.misspellings comment.text) .warning judge.identifiers).length
          = (judge.misspellings comment.text).length := by
  intro judge comment
  have hperiods : NoInnerPeriods (maskCalls judge.identifiers comment.text) := by decide
  obtain ⟨flagged, -, -, -, -, -, hlength⟩ := place_complete judge comment .warning hperiods
  exact ⟨hperiods, by rfl, hlength⟩

end CommentSpell
