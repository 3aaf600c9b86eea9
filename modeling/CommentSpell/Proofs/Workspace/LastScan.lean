import CommentSpell.Proofs.Edit.Transaction
import CommentSpell.Proofs.Workspace.Step
import Mathlib.Data.List.Pairwise

/-!
# Diagnostics are of the latest scan

A history of operations and answers tells for each address which text was scanned there last, and what was
reported (`lastScan?`).  Along every run, the diagnostics that are stored for the address are some of those,
in their order (`Workspace.tracks_run`).  So they are apart from each other and lie in the text that was
scanned.  Hence each of them can be taken off alone, and replacements for any of them can be applied to that
text together (`Workspace.run_stored_of_lastScan`).
-/

namespace CommentSpell

/-- What a scan told about a document: the `text` that was scanned, and its `diagnostics`. -/
structure Report where
  text : Text
  diagnostics : List Diagnostic

/-- `report.IsOrdered` iff the diagnostics of `report` stand in order, are apart from each other, and
mark something of its text. -/
structure Report.IsOrdered (report : Report) : Prop where
  ordered : report.diagnostics.Pairwise
    fun a b => a.span.start < b.span.start ∧ a.span.stop ≤ b.span.start
  nonempty : ∀ diagnostic ∈ report.diagnostics, diagnostic.span.start < diagnostic.span.stop
  stop_le : ∀ diagnostic ∈ report.diagnostics, diagnostic.span.stop ≤ report.text.length

/-- `noteScan uri last? entry` is the latest report about `uri`, once the operation of `entry` has
been answered.  A scan of a supported document at `uri` gives a new report, and closing the session
ends all reports. -/
def noteScan (uri : Text) (last? : Option Report) (entry : Operation × Except Failure Answer) :
    Option Report :=
  if entry.1 = .close then none
  else
    match entry.1.request?, entry.2 with
    | some (.highlight, document), .ok (.scan result) =>
      if result.supported ∧ document.uri = uri then some ⟨document.text, result.diagnostics⟩ else last?
    | _, _ => last?

/-- `lastScan? uri history` is the report of the latest scan of a supported document at `uri` since
the session was last closed. -/
def lastScan? (uri : Text) (history : List (Operation × Except Failure Answer)) : Option Report :=
  history.foldl (noteScan uri) none

/-! ### Reports -/

section NoteScan

variable {uri : Text} {last? : Option Report} {operation : Operation}

theorem noteScan_of_not_scan (hclose : operation ≠ .close) {answer : Except Failure Answer}
    (h : ∀ result, answer = .ok (.scan result) → result.supported = false) :
    noteScan uri last? (operation, answer) = last? := by
  unfold noteScan
  rw [if_neg hclose]
  dsimp only
  split
  · rename_i document result _
    rw [if_neg]
    simp [h result rfl]
  · rfl

theorem noteScan_scan (hclose : operation ≠ .close) {document : Document}
    (hrequest : operation.request? = some (.highlight, document)) {result : ScanResult}
    (hsupported : result.supported) :
    noteScan uri last? (operation, .ok (.scan result))
      = if document.uri = uri then some ⟨document.text, result.diagnostics⟩ else last? := by
  unfold noteScan
  rw [if_neg hclose, hrequest]
  simp [hsupported]

end NoteScan

/-- `judge.placeAll severity text`, as a report about `text`, is in order. -/
theorem Judge.isOrdered_placeAll (judge : Judge) (severity : Severity) (text : Text) :
    (Report.mk text (judge.placeAll severity text)).IsOrdered where
  ordered := judge.pairwise_placeAll severity text
  nonempty diagnostic hmem := by
    obtain ⟨comment, -, hmarks⟩ := exists_marksToken_of_mem_placeAll hmem
    exact hmarks.start_lt_stop
  stop_le diagnostic hmem := by
    obtain ⟨comment, hcomment, hmarks⟩ := exists_marksToken_of_mem_placeAll hmem
    exact hmarks.stop_le_length hcomment

/-! ### Stored diagnostics follow the reports -/

/-- `Tracks uri last? board` iff what `board` has for `uri` are diagnostics of the report `last?`, in
their order; it has none if there is no report. -/
structure Tracks (uri : Text) (last? : Option Report) (board : Board) : Prop where
  sublist : (board.get uri).Sublist (last?.elim [] Report.diagnostics)
  isOrdered : ∀ report ∈ last?, report.IsOrdered

namespace Session

variable (session : Session) (uri other : Text)

theorem get_ignore_sublist (diagnostic? : Option Diagnostic) (item : Ignorable) :
    ((session.ignore uri diagnostic? item).board.get other).Sublist (session.board.get other) := by
  cases diagnostic? with
  | none => exact List.Sublist.refl _
  | some diagnostic => exact session.board.get_erase_sublist uri diagnostic other

theorem get_ignoreAll_sublist :
    ((session.ignoreAll uri).board.get other).Sublist (session.board.get other) := by
  unfold ignoreAll
  split
  · exact List.Sublist.refl _
  · exact session.board.get_delete_sublist uri other

end Session

namespace Workspace

variable {workspace : Workspace} {operation : Operation} {uri : Text} {last? : Option Report}

/-- A routine operation keeps `Tracks uri`: apart from a scan, it leaves some of the stored
diagnostics, in their order. -/
theorem tracks_of_effect (hclose : operation ≠ .close)
    {outcome : Except Failure Answer × Workspace} (heffect : Effect workspace operation outcome)
    (h : Tracks uri last? workspace.session.board) :
    Tracks uri (noteScan uri last? (operation, outcome.1)) outcome.2.session.board := by
  have hkeep : ∀ {outcome : Except Failure Answer × Workspace},
      (∀ result, outcome.1 = .ok (.scan result) → result.supported = false) →
      (outcome.2.session.board.get uri).Sublist (workspace.session.board.get uri) →
        Tracks uri (noteScan uri last? (operation, outcome.1)) outcome.2.session.board := by
    intro outcome hanswer hsublist
    rw [noteScan_of_not_scan hclose hanswer]
    exact ⟨hsublist.trans h.sublist, h.isOrdered⟩
  cases heffect with
  | refused failure => exact hkeep (by simp) (List.Sublist.refl _)
  | told answer hplain =>
    refine hkeep (fun result heq => ?_) (List.Sublist.refl _)
    obtain rfl := Except.ok.inj heq
    cases hplain
  | wrote answer host hanswer =>
    refine hkeep ?_ (List.Sublist.refl _)
    rcases hanswer with rfl | ⟨cause, rfl⟩ <;> simp
  | unloaded hget => exact hkeep (by simp) (List.Sublist.refl _)
  | unscanned hrequest =>
    refine hkeep (fun result heq => ?_) (List.Sublist.refl _)
    obtain rfl := Answer.scan.inj (Except.ok.inj heq)
    rfl
  | @scanned document dictionary provider hrequest hget judge hjudge diagnostics hdiagnostics =>
    rw [noteScan_scan hclose hrequest rfl]
    show Tracks uri _ (workspace.session.board.set document.uri diagnostics)
    -- the scan is either of this address, and then what is stored is the new report, or of another one
    split
    · rename_i huri
      refine ⟨?_, fun report hreport => ?_⟩
      · rw [huri, Board.get_set_self]
        exact List.Sublist.refl _
      · obtain rfl := Option.some.inj hreport
        rw [hdiagnostics]
        exact judge.isOrdered_placeAll _ _
    · rename_i huri
      refine ⟨?_, h.isOrdered⟩
      rw [Board.get_set_of_ne (Ne.symm huri)]
      exact h.sublist
  | uncorrected hrequest => exact hkeep (by simp) (List.Sublist.refl _)
  | corrected hrequest hget hjudge => exact hkeep (by simp) (List.Sublist.refl _)
  | judged hget text identifiers => exact hkeep (by simp) (List.Sublist.refl _)
  | ignored uri' diagnostic? item =>
    exact hkeep (by simp) (Session.get_ignore_sublist _ uri' uri diagnostic? item)
  | @misaddressed item hitem =>
    exact hkeep (by simp) (Session.get_ignore_sublist _ [] uri none item)
  | ignoredAll uri' count => exact hkeep (by simp) (Session.get_ignoreAll_sublist _ uri' uri)
  | cleared uri' diagnostic => exact hkeep (by simp) (Board.get_erase_sublist _ uri' diagnostic uri)
  | offered document diagnostics? => exact hkeep (by simp) (List.Sublist.refl _)

/-- `workspace.step operation` keeps `Tracks uri`, unless `operation` sets diagnostics by hand. -/
theorem tracks_step (hset : ∀ uri diagnostics, operation ≠ .setDiagnostics uri diagnostics)
    (h : Tracks uri last? workspace.session.board) :
    Tracks uri (noteScan uri last? (operation, (workspace.step operation).1))
      (workspace.step operation).2.session.board := by
  rcases operation.isRoutine_or with hroutine | rfl | ⟨uri', diagnostics, heq⟩
  · refine tracks_of_effect (fun hclose => ?_) (workspace.step_effect hroutine) h
    rw [hclose] at hroutine
    cases hroutine
  · refine ⟨List.Sublist.refl _, fun report hreport => ?_⟩
    cases hreport
  · exact absurd heq (hset uri' diagnostics)

/-- `Tracks uri` holds at the end of every run that sets no diagnostics by hand. -/
theorem tracks_run (host : Host) (settings : Settings) (provider? : Option OnDemand)
    {operations : List Operation}
    (hset : ∀ uri diagnostics, .setDiagnostics uri diagnostics ∉ operations) (uri : Text) :
    let start : Workspace := ⟨host, .start settings provider?⟩
    Tracks uri (lastScan? uri (start.history operations)) (start.run operations).2.session.board := by
  intro start
  have hstart : Tracks uri none start.session.board := by
    refine ⟨List.Sublist.refl _, fun report hreport => ?_⟩
    cases hreport
  refine run_induction (P := fun last? workspace => Tracks uri last? workspace.session.board)
    (fun operation hmem last? workspace h => ?_) hstart
  refine tracks_step (fun uri diagnostics heq => ?_) h
  exact hset uri diagnostics (heq ▸ hmem)

end Workspace

/-! ### What follows for the stored diagnostics -/

namespace Tracks

variable {uri : Text} {report : Report} {board : Board}

theorem pairwise {last? : Option Report} (h : Tracks uri last? board) :
    (board.get uri).Pairwise fun a b => a.span.start < b.span.start ∧ a.span.stop ≤ b.span.start := by
  cases last? with
  | none =>
    rw [List.sublist_nil.mp h.sublist]
    exact List.Pairwise.nil
  | some report => exact (h.isOrdered report rfl).ordered.sublist h.sublist

theorem nodup {last? : Option Report} (h : Tracks uri last? board) : (board.get uri).Nodup :=
  Diagnostic.nodup_of_pairwise h.pairwise

/-- Different diagnostics `a` and `b` that are stored for `uri` mark disjoint spans. -/
theorem disjoint {last? : Option Report} (h : Tracks uri last? board) {a b : Diagnostic}
    (ha : a ∈ board.get uri) (hb : b ∈ board.get uri) (hne : a ≠ b) : a.span.Disjoint b.span := by
  have hpairwise : (board.get uri).Pairwise fun a b => a.span.Disjoint b.span :=
    h.pairwise.imp fun hab => Or.inl hab.2
  have : Std.Symm fun a b : Diagnostic => a.span.Disjoint b.span := ⟨fun _ _ => Span.Disjoint.symm⟩
  exact hpairwise.forall ha hb hne

/-- Replacements `fixes` for different diagnostics are accepted together, in any `order` and with one
result. -/
theorem applyAll_replacements (h : Tracks uri (some report) board) {fixes : List QuickFix}
    (hfixes : ∀ fix ∈ fixes, ∃ diagnostic ∈ board.get uri, ∃ suggestion,
      fix = .replace uri diagnostic suggestion)
    (honce : (fixes.map QuickFix.diagnostics).Nodup) :
    ∃ after, ∀ order : List QuickFix, order.Perm fixes →
      TextEdit.applyAll (order.filterMap QuickFix.edit?) report.text = .ok after := by
  have hordered := h.isOrdered report rfl
  have hdisjoint : (fixes.filterMap QuickFix.edit?).Pairwise fun a b => a.span.Disjoint b.span := by
    refine List.pairwise_filterMap.mpr ((List.pairwise_map.mp honce).imp_of_mem ?_)
    intro fix fix' hfix hfix' hne edit hedit edit' hedit'
    obtain ⟨diagnostic, hmem, suggestion, rfl⟩ := hfixes fix hfix
    obtain ⟨diagnostic', hmem', suggestion', rfl⟩ := hfixes fix' hfix'
    obtain rfl := Option.some.inj hedit
    obtain rfl := Option.some.inj hedit'
    refine h.disjoint hmem hmem' fun heq => ?_
    exact hne (congrArg (fun diagnostic => [diagnostic]) heq)
  have hinside : ∀ edit ∈ fixes.filterMap QuickFix.edit?,
      edit.span.start < edit.span.stop ∧ edit.span.stop ≤ report.text.length := by
    intro edit hmem
    obtain ⟨fix, hfix, hedit⟩ := List.mem_filterMap.mp hmem
    obtain ⟨diagnostic, hdiagnostic, suggestion, rfl⟩ := hfixes fix hfix
    obtain rfl := Option.some.inj hedit
    have hreported := h.sublist.subset hdiagnostic
    exact ⟨hordered.nonempty diagnostic hreported, hordered.stop_le diagnostic hreported⟩
  obtain ⟨after, hafter⟩ := TextEdit.applyAll_of_disjoint hdisjoint hinside
  exact ⟨after, fun order hperm => hafter _ (hperm.filterMap _)⟩

end Tracks

namespace Workspace

/-- **Stored diagnostics are of the latest scan.** `after` every run that sets no diagnostics by hand,
the diagnostics `stored` for `uri` are some of `lastScan? uri`, in their order, and none if there was
no scan.  They are in strictly increasing order, do not overlap and lie in the text that was scanned.
To clear one of them, or to ignore a word at it, takes it alone off the board.  Replacements `fixes`
for any of them, at most one for each, are accepted for that text as one batch, in any `order` and
with one `result`. -/
theorem run_stored_of_lastScan (host : Host) (settings : Settings) (provider? : Option OnDemand)
    {operations : List Operation}
    (hset : ∀ uri diagnostics, .setDiagnostics uri diagnostics ∉ operations) (uri : Text) :
    let start : Workspace := ⟨host, .start settings provider?⟩
    let after := (start.run operations).2
    let last? := lastScan? uri (start.history operations)
    let stored := after.session.board.get uri
    stored.Sublist (last?.elim [] Report.diagnostics)
      ∧ stored.Pairwise (fun a b => a.span.start < b.span.start ∧ a.span.stop ≤ b.span.start)
      ∧ (∀ report ∈ last?, ∀ diagnostic ∈ stored, diagnostic.span.stop ≤ report.text.length)
      ∧ (∀ front diagnostic behind, stored = front ++ diagnostic :: behind →
          let rest := after.session.board.set uri (front ++ behind)
          (after.step (.clearDiagnostic uri (some diagnostic))).2.session.board = rest
            ∧ ∀ word, (after.step (.ignoreWord uri (some diagnostic) word)).2.session.board = rest)
      ∧ ∀ report ∈ last?, ∀ fixes : List QuickFix,
          (∀ fix ∈ fixes, ∃ diagnostic ∈ stored, ∃ suggestion, fix = .replace uri diagnostic suggestion) →
          (fixes.map QuickFix.diagnostics).Nodup →
            ∃ result, ∀ order : List QuickFix, order.Perm fixes →
              TextEdit.applyAll (order.filterMap QuickFix.edit?) report.text = .ok result := by
  intro start after last? stored
  have htracks : Tracks uri last? after.session.board := tracks_run host settings provider? hset uri
  refine ⟨htracks.sublist, htracks.pairwise, ?_, ?_, ?_⟩
  · intro report hreport diagnostic hmem
    have hreported := htracks.sublist.subset hmem
    rw [Option.mem_def.mp hreport] at hreported
    exact (htracks.isOrdered report hreport).stop_le diagnostic hreported
  · intro front diagnostic behind hstored
    have herase := Board.erase_eq_set hstored htracks.nodup
    exact ⟨herase, fun _ => herase⟩
  · intro report hreport fixes hfixes honce
    rw [Option.mem_def.mp hreport] at htracks
    exact htracks.applyAll_replacements hfixes honce

/-- Of three diagnostics one is cleared, and the words of the others are replaced together. -/
theorem run_stored_of_lastScan_cleared :
    let start : Workspace :=
      ⟨{}, .start {} (some (.ready (.pair "teh".toList "the".toList)))⟩
    let document : Document := { uri := [], text := "// teh zed teh".toList }
    let first : Diagnostic := ⟨.ofLength 3 3, Hover.message ["the".toList], "teh".toList, .warning⟩
    let zed : Diagnostic := ⟨.ofLength 7 3, Hover.message [], "zed".toList, .warning⟩
    let second : Diagnostic := ⟨.ofLength 11 3, Hover.message ["the".toList], "teh".toList, .warning⟩
    let operations : List Operation :=
      [.highlight document, .clearDiagnostic document.uri (some zed)]
    let fixes : List QuickFix :=
      [.replace document.uri second "the".toList, .replace document.uri first "the".toList]
    (∀ uri diagnostics, .setDiagnostics uri diagnostics ∉ operations)
      ∧ (lastScan? document.uri (start.history operations)).map Report.diagnostics
          = some [first, zed, second]
      ∧ (start.run operations).2.session.board.get document.uri = [first, second]
      ∧ ∃ result, TextEdit.applyAll (fixes.filterMap QuickFix.edit?) document.text = .ok result
          ∧ TextEdit.applyAll (fixes.reverse.filterMap QuickFix.edit?) document.text = .ok result
          ∧ result = "// the zed the".toList := by
  intro start document first zed second operations fixes
  have hset : ∀ uri diagnostics, .setDiagnostics uri diagnostics ∉ operations := by
    simp [operations]
  obtain ⟨report, hreport, htext, hdiagnostics⟩ :
      ∃ report, lastScan? document.uri (start.history operations) = some report
        ∧ report.text = document.text ∧ report.diagnostics = [first, zed, second] :=
    ⟨_, rfl, rfl, by decide +kernel⟩
  have hstored : (start.run operations).2.session.board.get document.uri = [first, second] := by
    decide +kernel
  obtain ⟨-, -, -, -, hfixes⟩ := run_stored_of_lastScan {} {}
    (some (.ready (.pair "teh".toList "the".toList))) hset document.uri
  obtain ⟨result, hresult⟩ := hfixes report hreport fixes
    (by rw [hstored]; simp [fixes]) (by decide +kernel)
  rw [htext] at hresult
  have happlied := hresult fixes (.refl _)
  have hafter : TextEdit.applyAll (fixes.filterMap QuickFix.edit?) document.text
      = .ok "// the zed the".toList := by decide +kernel
  refine ⟨hset, ?_, hstored, result, happlied, hresult _ (List.reverse_perm _), ?_⟩
  · rw [hreport, Option.map_some, hdiagnostics]
  · exact Except.ok.inj (happlied.symm.trans hafter)

end Workspace

end CommentSpell
