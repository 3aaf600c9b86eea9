import CommentSpell.Proofs.Report.Ignoring
import CommentSpell.Proofs.Workspace.Highlight
import CommentSpell.Workspace.Operation

/-!
# Ignoring all words of a document

To ignore all words of a document is to ignore the codes of its diagnostics.  A document that is scanned
again after that is judged as before, with these words ignored (`run_ignoreAll_eq`).  So the second scan
reports no word that the first one did, and if every flagged token of the first scan had a place it
reports nothing at all (`run_ignoreAll_silences`).
-/

namespace CommentSpell

namespace Session

variable (session : Session) (uri : Text)

theorem ignored_ignoreAll :
    (session.ignoreAll uri).ignored
      = session.ignored.insertAll ((session.board.get uri).map Diagnostic.code) := by
  unfold ignoreAll
  split
  · rename_i hnil
    rw [hnil]
    rfl
  · rfl

@[simp] theorem settings_ignoreAll : (session.ignoreAll uri).settings = session.settings := by
  unfold ignoreAll
  split <;> rfl

@[simp] theorem provider_ignoreAll : (session.ignoreAll uri).provider = session.provider := by
  unfold ignoreAll
  split <;> rfl

end Session

namespace Workspace

variable {workspace : Workspace} {document : Document} {dictionary : Dictionary}
  {provider : OnDemand}

theorem run_nil (workspace : Workspace) : workspace.run [] = ([], workspace) := rfl

/-- `workspace.run (operation :: operations)` is the answer to `operation`, and the run of
`operations` from the state after it. -/
theorem run_cons_eq {operation : Operation} {operations : List Operation}
    {answer : Except Failure Answer} {answers : List (Except Failure Answer)}
    {next last : Workspace} (hstep : workspace.step operation = (answer, next))
    (hrun : next.run operations = (answers, last)) :
    workspace.run (operation :: operations) = (answer :: answers, last) := by
  rw [run, hstep]
  dsimp only
  rw [hrun]

theorem step_highlight_eq {result : ScanResult} {session : Session}
    (h : workspace.session.highlight workspace.host document = (.ok result, session)) :
    workspace.step (.highlight document) = (.ok (.scan result), workspace.withSession session) := by
  show workspace.highlight document = _
  unfold highlight
  rw [h]
  rfl

theorem step_ignoreAll_eq (workspace : Workspace) (uri : Text) :
    workspace.step (.ignoreAll uri)
      = (.ok (.count ((workspace.session.ignoreAll uri).ignored.size
            - workspace.session.ignored.size)),
          workspace.withSession (workspace.session.ignoreAll uri)) := rfl

/-- The answers to a scan of `document`, to ignoring all its words and to another scan, and what they
leave. -/
theorem run_ignoreAll_eq (hsupported : workspace.session.settings.supports document.language)
    (hget : workspace.session.provider.get workspace.host = (.ok dictionary, provider)) :
    let judge := workspace.session.judge dictionary (Identifier.extract document.text)
    let reported := judge.placeAll workspace.session.settings.severity document.text
    let ignored := workspace.session.ignored.insertAll (reported.map Diagnostic.code)
    ∃ (first second : ScanResult) (n : Nat) (after : Workspace),
      workspace.run [.highlight document, .ignoreAll document.uri, .highlight document]
          = ([.ok (.scan first), .ok (.count n), .ok (.scan second)], after)
        ∧ first.diagnostics = reported
        ∧ second.diagnostics
          = (judge.ignoring ignored.words).placeAll workspace.session.settings.severity document.text
        ∧ after.session.board.get document.uri = second.diagnostics
        ∧ after.session.ignored = ignored := by
  intro judge reported ignored
  let scanned : Session :=
    { workspace.session with provider, board := workspace.session.board.set document.uri reported }
  let silenced : Session := scanned.ignoreAll document.uri
  have hignored : silenced.ignored = ignored := by
    rw [Session.ignored_ignoreAll, Board.get_set_self]
  have hprovider : silenced.provider = provider := Session.provider_ignoreAll _ _
  have hsettings : silenced.settings = workspace.session.settings := Session.settings_ignoreAll _ _
  have hjudge : silenced.judge dictionary (Identifier.extract document.text)
      = judge.ignoring ignored.words := by
    unfold Session.judge
    rw [hsettings, hignored]
    rfl
  have hsupported' : silenced.settings.supports document.language := by
    rwa [hsettings]
  have hget' : silenced.provider.get workspace.host = (.ok dictionary, provider) := by
    rw [hprovider]
    exact OnDemand.get_of_get hget _
  have hfirst := step_highlight_eq (Session.highlight_eq hsupported hget)
  have hsecond := @step_highlight_eq (workspace.withSession silenced) document _ _
    (Session.highlight_eq hsupported' hget')
  have hignore := step_ignoreAll_eq (workspace.withSession scanned) document.uri
  have hrun := run_cons_eq hfirst (run_cons_eq hignore (run_cons_eq hsecond (run_nil _)))
  refine ⟨_, _, _, _, hrun, rfl, ?_, ?_, hignored⟩
  · show (silenced.judge dictionary _).placeAll silenced.settings.severity document.text = _
    rw [hjudge, hsettings]
  · exact Board.get_set_self _ _ _

/-- **Ignoring all words silences a document.** A supported `document` is scanned, all its words are
ignored, and it is scanned again.  The second scan reports no word that the first one did.  If in each
comment no joined token stands as a word of its own, it reports nothing, and there is no word left to
ignore. -/
theorem run_ignoreAll_silences
    (hsupported : workspace.session.settings.supports document.language)
    (hget : workspace.session.provider.get workspace.host = (.ok dictionary, provider)) :
    let identifiers := Identifier.extract document.text
    ∃ (first second : ScanResult) (n : Nat) (after : Workspace),
      workspace.run [.highlight document, .ignoreAll document.uri, .highlight document]
          = ([.ok (.scan first), .ok (.count n), .ok (.scan second)], after)
        ∧ after.session.board.get document.uri = second.diagnostics
        ∧ (∀ diagnostic ∈ second.diagnostics,
            diagnostic.code ∉ first.diagnostics.map Diagnostic.code)
        ∧ ((∀ comment ∈ Comment.extract document.text,
              (workspace.session.judge dictionary identifiers).JoinedApart
                (maskCalls identifiers comment.text)) →
            second.diagnostics = []
              ∧ (after.step (.ignoreAll document.uri)).1 = .ok (.count 0)) := by
  intro identifiers
  let judge := workspace.session.judge dictionary identifiers
  have hmin : 1 ≤ judge.minWordLength := workspace.session.settings.minWordLength_pos
  obtain ⟨first, second, n, after, hrun, hfirst, hsecond, hboard, -⟩ :=
    run_ignoreAll_eq hsupported hget
  -- the words that the first scan reported are ignored in the second one
  have hcodes : ∀ diagnostic ∈ first.diagnostics, diagnostic.code
      ∈ (workspace.session.ignored.insertAll (first.diagnostics.map Diagnostic.code)).words := by
    intro diagnostic hmem
    refine IgnoreList.mem_insertAll.mpr (Or.inr ⟨List.mem_map_of_mem hmem, ?_⟩)
    rw [hfirst] at hmem
    obtain ⟨comment, -, hmarks⟩ := Judge.exists_marksToken_of_mem_placeAll hmem
    rw [hmarks.code_eq]
    exact hmarks.flagged.cleanWord_ne_nil hmin
  refine ⟨first, second, n, after, hrun, hboard, fun diagnostic hmem hreported => ?_, fun happart => ?_⟩
  · obtain ⟨earlier, hearlier, hcode⟩ := List.mem_map.mp hreported
    rw [hsecond] at hmem
    obtain ⟨comment, -, hmarks⟩ := Judge.exists_marksToken_of_mem_placeAll hmem
    have hnot := hmarks.flagged.not_ignored
    rw [← hmarks.code_eq, ← hcode, ← hfirst] at hnot
    exact hnot (hcodes earlier hearlier)
  · have hnone : second.diagnostics = [] := by
      rw [hsecond, ← hfirst]
      refine Judge.placeAll_ignoring hmin happart (fun word hmem => ?_) fun diagnostic hmem => ?_
      · exact IgnoreList.mem_insertAll.mpr (Or.inl hmem)
      · rw [← hfirst] at hmem
        exact hcodes diagnostic hmem
    refine ⟨hnone, ?_⟩
    rw [hnone] at hboard
    rw [step_ignoreAll_eq, Session.ignored_ignoreAll, hboard]
    exact congrArg (fun n => Except.ok (Answer.count n)) (Nat.sub_self _)

/-- A joined token that stands nowhere is not reported, and does not come back. -/
theorem run_ignoreAll_silences_joined :
    let dictionary : Dictionary := { check := fun _ => false, suggest := fun _ => [] }
    let workspace : Workspace :=
      { host := {}, session := { settings := {}, provider := .ready dictionary } }
    let document : Document := { uri := [], text := "// foo.bar zed (zed).\n/* abc */".toList }
    workspace.session.settings.supports document.language
      ∧ workspace.session.provider.get workspace.host
          = (.ok dictionary, workspace.session.provider)
      ∧ ∃ (first second : ScanResult) (n : Nat) (after : Workspace),
        workspace.run [.highlight document, .ignoreAll document.uri, .highlight document]
            = ([.ok (.scan first), .ok (.count n), .ok (.scan second)], after)
          ∧ second.diagnostics = []
          ∧ (after.step (.ignoreAll document.uri)).1 = .ok (.count 0) := by
  intro dictionary workspace document
  have hsupported : workspace.session.settings.supports document.language := by decide
  have hget : workspace.session.provider.get workspace.host
      = (.ok dictionary, workspace.session.provider) := rfl
  obtain ⟨first, second, n, after, hrun, -, -, hsilent⟩ := run_ignoreAll_silences hsupported hget
  obtain ⟨hnone, hcount⟩ := hsilent (by decide +kernel)
  exact ⟨hsupported, hget, first, second, n, after, hrun, hnone, hcount⟩

/-- A joined token that stands behind its word is found there, and the word between the two is left
out until all words are ignored. -/
theorem run_ignoreAll_joined_elsewhere :
    let dictionary : Dictionary := { check := fun _ => false, suggest := fun _ => [] }
    let workspace : Workspace :=
      { host := {}, session := { settings := {}, provider := .ready dictionary } }
    let document : Document := { uri := [], text := "// foo.bar zed foobar".toList }
    workspace.session.settings.supports document.language
      ∧ ∃ (first second : ScanResult) (n : Nat) (after : Workspace),
        workspace.run [.highlight document, .ignoreAll document.uri, .highlight document]
            = ([.ok (.scan first), .ok (.count n), .ok (.scan second)], after)
          ∧ first.diagnostics.map Diagnostic.code = ["foobar".toList]
          ∧ second.diagnostics.map Diagnostic.code = ["zed".toList]
          ∧ (after.step (.ignoreAll document.uri)).1 = .ok (.count 1) := by
  intro dictionary workspace document
  have hsupported : workspace.session.settings.supports document.language := by decide
  have hget : workspace.session.provider.get workspace.host
      = (.ok dictionary, workspace.session.provider) := rfl
  obtain ⟨first, second, n, after, hrun, hfirst, hsecond, hboard, hignored⟩ :=
    run_ignoreAll_eq hsupported hget
  refine ⟨hsupported, first, second, n, after, hrun, ?_, ?_, ?_⟩
  · rw [hfirst]
    decide +kernel
  · rw [hsecond]
    decide +kernel
  · rw [step_ignoreAll_eq]
    dsimp only
    rw [Session.ignored_ignoreAll, hboard, hignored, hsecond]
    decide +kernel

end Workspace

end CommentSpell
