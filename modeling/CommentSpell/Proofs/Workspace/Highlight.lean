import CommentSpell.Workspace.Session
import CommentSpell.Proofs.Report.Board
import CommentSpell.Proofs.Report.Soundness

/-!
# Scanning a document is sound

A scan of a supported document answers with the diagnostics of its comments and stores the same ones
(`highlight_eq`).  Each of them marks a flagged token of a comment, and they are in order and do not
overlap (`highlight_sound`).
-/

namespace CommentSpell

/-- The diagnostics of `judge.scan source` are `judge.placeAll severity source`. -/
theorem Judge.diagnostics_scan (judge : Judge) (severity : Severity) (source : Text) :
    (judge.scan source).diagnostics severity judge.identifiers = judge.placeAll severity source := by
  unfold TextScan.diagnostics scan placeAll
  dsimp only
  rw [List.map_map, List.flatMap_map]
  rfl

theorem OnDemand.get_of_loaded {provider : OnDemand} {dictionary : Dictionary}
    (h : provider.loaded? = some dictionary) (host : Host) :
    provider.get host = (.ok dictionary, provider) := by
  unfold get
  rw [h]

/-- If `provider.get host` gives a dictionary, then `provider'` gives it on every host. -/
theorem OnDemand.get_of_get {provider provider' : OnDemand} {host : Host} {dictionary : Dictionary}
    (h : provider.get host = (.ok dictionary, provider')) (host' : Host) :
    provider'.get host' = (.ok dictionary, provider') := by
  have hloaded : provider'.loaded? = some dictionary := by
    unfold get at h
    split at h
    · rename_i hsome
      obtain ⟨hdictionary, rfl⟩ := Prod.mk.inj h
      rw [hsome, Except.ok.inj hdictionary]
    · dsimp only at h
      split at h
      · obtain ⟨hdictionary, rfl⟩ := Prod.mk.inj h
        rw [Except.ok.inj hdictionary]
      · cases (Prod.mk.inj h).1
  exact get_of_loaded hloaded host'

namespace Session

theorem withDictionary_of_get {α : Type} {session : Session} {host : Host} {dictionary : Dictionary}
    {provider : OnDemand} (hget : session.provider.get host = (.ok dictionary, provider))
    (use : Session → Dictionary → Except Failure α × Session) :
    session.withDictionary host use = use { session with provider } dictionary := by
  unfold withDictionary
  rw [hget]

/-- `session.highlight host document` for a supported `document`: its answer, and the session after
it. -/
theorem highlight_eq {session : Session} {host : Host} {document : Document}
    {dictionary : Dictionary} {provider : OnDemand}
    (hsupported : session.settings.supports document.language)
    (hget : session.provider.get host = (.ok dictionary, provider)) :
    let judge := session.judge dictionary (Identifier.extract document.text)
    let diagnostics := judge.placeAll session.settings.severity document.text
    session.highlight host document
      = (.ok
          { uri := document.uri
            supported := true
            commentCount := (judge.scan document.text).comments.length
            diagnostics
            tally := (judge.scan document.text).tally },
        { session with provider, board := session.board.set document.uri diagnostics }) := by
  intro judge diagnostics
  have hdiagnostics : diagnostics
      = (judge.scan document.text).diagnostics session.settings.severity judge.identifiers :=
    (judge.diagnostics_scan _ _).symm
  unfold highlight
  rw [if_pos hsupported, withDictionary_of_get hget, hdiagnostics]
  rfl

/-- **A scan is sound.** `session.highlight host document` of a supported `document` succeeds, and
stores the diagnostics of its `result`.  Each of them marks a flagged token of a comment of `document`;
they are in strictly increasing order and do not overlap. -/
theorem highlight_sound {session : Session} {host : Host} {document : Document}
    {dictionary : Dictionary} {provider : OnDemand}
    (hsupported : session.settings.supports document.language)
    (hget : session.provider.get host = (.ok dictionary, provider)) :
    ∃ result session', session.highlight host document = (.ok result, session')
      ∧ session'.board.get document.uri = result.diagnostics
      ∧ (∀ diagnostic ∈ result.diagnostics, ∃ comment ∈ Comment.extract document.text,
          MarksToken (session.judge dictionary (Identifier.extract document.text)) document.text
            comment diagnostic)
      ∧ result.diagnostics.Pairwise
          fun a b => a.span.start < b.span.start ∧ a.span.stop ≤ b.span.start := by
  refine ⟨_, _, highlight_eq hsupported hget, ?_, ?_, ?_⟩
  · exact Board.get_set_self _ _ _
  · intro diagnostic hmem
    exact Judge.exists_marksToken_of_mem_placeAll hmem
  · exact Judge.pairwise_placeAll _ _ _

/-- A scan that marks a word in each of two comments. -/
theorem highlight_sound_single :
    let dictionary : Dictionary := .single "the".toList
    let session : Session := { settings := {}, provider := .ready dictionary }
    let document : Document := { uri := [], text := "f(teh) // teh f(teh)\n/* teh. */".toList }
    session.settings.supports document.language
      ∧ session.provider.get {} = (.ok dictionary, session.provider)
      ∧ ∃ result session', session.highlight {} document = (.ok result, session')
        ∧ result.diagnostics.map Diagnostic.span = [.ofLength 10 3, .ofLength 24 3]
        ∧ session'.board.get document.uri = result.diagnostics
        ∧ ∀ diagnostic ∈ result.diagnostics, ∃ comment ∈ Comment.extract document.text,
            MarksToken (session.judge dictionary (Identifier.extract document.text)) document.text
              comment diagnostic := by
  intro dictionary session document
  have hsupported : session.settings.supports document.language := by decide
  have hget : session.provider.get {} = (.ok dictionary, session.provider) := rfl
  have hspans : (session.highlight {} document).1.toOption.map (·.diagnostics.map Diagnostic.span)
      = some [.ofLength 10 3, .ofLength 24 3] := by decide +kernel
  obtain ⟨result, session', hresult, hboard, hmarks, -⟩ := highlight_sound hsupported hget
  rw [hresult] at hspans
  exact ⟨hsupported, hget, result, session', hresult, Option.some.inj hspans, hboard, hmarks⟩

end Session

end CommentSpell
