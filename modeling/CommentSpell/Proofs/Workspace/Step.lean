import CommentSpell.Workspace.Operation
import CommentSpell.Proofs.Workspace.RoundTrip

/-!
# What a step does

`Effect` lists all that an operation can do: what it answers, and the workspace that it leaves.  Left out
are only the operations that close the session or set diagnostics by hand; they never fail, and their
definitions say what they do.  Every other operation, also one that comes as a command with arguments of
any kind, has one of these effects (`Workspace.step_effect`).  What holds along a run is then shown effect
by effect.
-/

namespace CommentSpell

namespace Operation

/-- `operation.isRoutine` iff `operation` neither closes the session nor sets diagnostics by hand. -/
def isRoutine : Operation → Bool
  | setDiagnostics .. => false
  | close => false
  | _ => true

theorem isRoutine_or (operation : Operation) :
    operation.isRoutine ∨ operation = .close
      ∨ ∃ uri diagnostics, operation = .setDiagnostics uri diagnostics := by
  cases operation with
  | close => exact .inr (.inl rfl)
  | setDiagnostics uri diagnostics => exact .inr (.inr ⟨uri, diagnostics, rfl⟩)
  | _ => exact .inl rfl

/-- `operation.request?` is the command on a document that `operation` asks for, directly or by the
name of the command. -/
def request? : Operation → Option (Command × Document)
  | highlight document => some (.highlight, document)
  | autoCorrect document => some (.autoCorrect, document)
  | execute name [.document document] => (Command.ofName? name).map (·, document)
  | _ => none

/-- What `Command.ignoreWord` ignores although it fails: `some item` if a document stands where the address
should, something is marked, and `item` stands in place of the word. -/
def misaddressed? : Operation → Option Ignorable
  | execute name [.document _, marked, word] =>
    if Command.ofName? name = some .ignoreWord ∧ marked ≠ .diagnostic none then word.ignorable.toOption
    else none
  | _ => none

/-- `operation.misaddressed? = some item` iff `operation` is `Command.ignoreWord` on a document, with
something marked and `item` in place of the word. -/
theorem misaddressed?_eq_some_iff {operation : Operation} {item : Ignorable} :
    operation.misaddressed? = some item
      ↔ ∃ name document marked word,
          operation = .execute name [.document document, marked, word]
            ∧ Command.ofName? name = some .ignoreWord ∧ marked ≠ .diagnostic none
            ∧ word.ignorable = .ok item := by
  constructor
  · intro h
    unfold misaddressed? at h
    split at h
    · rename_i name document marked word
      obtain ⟨⟨hname, hmarked⟩, hsome⟩ := Option.ite_none_right_eq_some.mp h
      refine ⟨name, document, marked, word, rfl, hname, hmarked, ?_⟩
      cases hitem : word.ignorable with
      | error failure =>
        rw [hitem] at hsome
        cases hsome
      | ok other =>
        rw [hitem] at hsome
        exact congrArg Except.ok (Option.some.inj hsome)
    · cases h
  · rintro ⟨name, document, marked, word, rfl, hname, hmarked, hitem⟩
    refine Option.ite_none_right_eq_some.mpr ⟨⟨hname, hmarked⟩, ?_⟩
    rw [hitem]
    rfl

theorem request?_execute {name : Text} {command : Command} (hname : Command.ofName? name = some command)
    (document : Document) : (execute name [.document document]).request? = some (command, document) := by
  show (Command.ofName? name).map (·, document) = _
  rw [hname, Option.map_some]

end Operation

/-- `answer.isPlain` iff `answer` says nothing about the words of a document. -/
def Answer.isPlain : Answer → Bool
  | flag _ => true
  | count _ => true
  | text _ => true
  | info _ => true
  | done => true
  | _ => false

/-- `Effect workspace operation outcome` iff a routine `operation` can have the answer `outcome.1`,
and leave the workspace `outcome.2`. -/
inductive Effect (workspace : Workspace) (operation : Operation) :
    Except Failure Answer × Workspace → Prop where
  /-- The operation is refused. -/
  | refused (failure : Failure) : Effect workspace operation (.error failure, workspace)
  /-- Nothing changes, and the answer is about no words. -/
  | told (answer : Answer) (hplain : answer.isPlain) :
      Effect workspace operation (.ok answer, workspace)
  /-- Files are written, or some of them until one is refused. -/
  | wrote (answer : Except Failure Answer) (host : Host)
      (hanswer : answer = .ok .done ∨ ∃ cause, answer = .error (.write cause)) :
      Effect workspace operation (answer, { workspace with host })
  /-- The dictionary is needed and cannot be loaded. -/
  | unloaded {cause : LoadError} {provider : OnDemand}
      (hget : workspace.session.provider.get workspace.host = (.error cause, provider)) :
      Effect workspace operation
        (.error (.load cause), workspace.withSession { workspace.session with provider })
  /-- A document that is not supported is not scanned. -/
  | unscanned {document : Document} (hrequest : operation.request? = some (.highlight, document)) :
      Effect workspace operation
        (.ok (.scan { uri := document.uri, supported := false }), workspace)
  /-- A document is scanned. -/
  | scanned {document : Document} {dictionary : Dictionary} {provider : OnDemand}
      (hrequest : operation.request? = some (.highlight, document))
      (hget : workspace.session.provider.get workspace.host = (.ok dictionary, provider))
      {judge : Judge}
      (hjudge : judge = workspace.session.judge dictionary (Identifier.extract document.text))
      {diagnostics : List Diagnostic}
      (hdiagnostics : diagnostics
        = judge.placeAll workspace.session.settings.severity document.text) :
      Effect workspace operation
        (.ok (.scan
          { uri := document.uri
            supported := true
            commentCount := (judge.scan document.text).comments.length
            diagnostics
            tally := (judge.scan document.text).tally }),
          workspace.withSession
            { workspace.session with
              provider
              board := workspace.session.board.set document.uri diagnostics })
  /-- A document that is not supported is not corrected. -/
  | uncorrected {document : Document} (hrequest : operation.request? = some (.autoCorrect, document)) :
      Effect workspace operation
        (.ok (.correction
          { uri := document.uri
            supported := false
            before := document.text
            after := document.text }),
          workspace)
  /-- A document is corrected. -/
  | corrected {document : Document} {dictionary : Dictionary} {provider : OnDemand}
      (hrequest : operation.request? = some (.autoCorrect, document))
      (hget : workspace.session.provider.get workspace.host = (.ok dictionary, provider))
      {judge : Judge}
      (hjudge : judge = workspace.session.judge dictionary (Identifier.extract document.text)) :
      Effect workspace operation
        (.ok (.correction
          { uri := document.uri
            supported := true
            before := document.text
            after := Comment.rewrite judge.corrected document.text
            edits := judge.corrections document.text }),
          workspace.withSession { workspace.session with provider })
  /-- The words of a text are judged. -/
  | judged {dictionary : Dictionary} {provider : OnDemand}
      (hget : workspace.session.provider.get workspace.host = (.ok dictionary, provider))
      (text : Text) (identifiers : List Text) :
      Effect workspace operation
        (.ok (.comments ((workspace.session.judge dictionary identifiers).scan text)),
          workspace.withSession { workspace.session with provider })
  /-- `item` is ignored, and `diagnostic?` is taken off the document at `uri`. -/
  | ignored (uri : Text) (diagnostic? : Option Diagnostic) (item : Ignorable) :
      Effect workspace operation
        (.ok (.flag (workspace.session.ignored.lacks item)),
          workspace.withSession (workspace.session.ignore uri diagnostic? item))
  /-- `item` is ignored before it is found that a document stands where the address should. -/
  | misaddressed {item : Ignorable} (hitem : operation.misaddressed? = some item) :
      Effect workspace operation
        (.error .notAnAddress, workspace.withSession (workspace.session.ignore [] none item))
  /-- All marked words of a document are ignored. -/
  | ignoredAll (uri : Text) (count : Nat) :
      Effect workspace operation
        (.ok (.count count), workspace.withSession (workspace.session.ignoreAll uri))
  /-- A diagnostic is taken off a document. -/
  | cleared (uri : Text) (diagnostic : Diagnostic) :
      Effect workspace operation
        (.ok (.flag (diagnostic ∈ workspace.session.board.get uri)),
          workspace.withSession (workspace.session.clearDiagnostic uri diagnostic))
  /-- Quick fixes are offered. -/
  | offered (document : Document) (diagnostics? : Option (List Diagnostic)) :
      Effect workspace operation
        (.ok (.fixes (workspace.session.quickFixes document diagnostics?)), workspace)

namespace Workspace

variable {workspace : Workspace} {operation : Operation}

/-! ### Operations on documents -/

theorem highlight_effect {document : Document}
    (hrequest : operation.request? = some (.highlight, document)) :
    Effect workspace operation (workspace.highlight document) := by
  unfold highlight
  by_cases hsupported : workspace.session.settings.supports document.language
  · rcases hget : workspace.session.provider.get workspace.host with ⟨cause | dictionary, provider⟩
    · unfold Session.highlight Session.withDictionary
      rw [if_pos hsupported, hget]
      exact .unloaded hget
    · rw [Session.highlight_eq hsupported hget]
      exact .scanned hrequest hget rfl rfl
  · unfold Session.highlight
    rw [if_neg hsupported]
    exact .unscanned hrequest

theorem autoCorrect_effect {document : Document}
    (hrequest : operation.request? = some (.autoCorrect, document)) :
    Effect workspace operation (workspace.autoCorrect document) := by
  unfold autoCorrect
  by_cases hsupported : workspace.session.settings.supports document.language
  · rcases hget : workspace.session.provider.get workspace.host with ⟨cause | dictionary, provider⟩
    · unfold Session.autoCorrect Session.withDictionary
      rw [if_pos hsupported, hget]
      exact .unloaded hget
    · rw [Session.autoCorrect_eq hsupported hget]
      exact .corrected hrequest hget rfl
  · unfold Session.autoCorrect
    rw [if_neg hsupported]
    exact .uncorrected hrequest

theorem scanText_effect (text : Text) (identifiers? : Option (List Text)) :
    Effect workspace operation (workspace.step (.scanText text identifiers?)) := by
  show Effect workspace operation
    ((workspace.session.scanText workspace.host text identifiers?).1.map .comments,
      workspace.withSession (workspace.session.scanText workspace.host text identifiers?).2)
  unfold Session.scanText Session.withDictionary
  rcases hget : workspace.session.provider.get workspace.host with ⟨cause | dictionary, provider⟩
  · exact .unloaded hget
  · exact .judged hget text _

/-! ### Commands -/

theorem clearDiagnostic_effect (uri : Text) (diagnostic? : Option Diagnostic) :
    Effect workspace operation (workspace.clearDiagnostic uri diagnostic?) := by
  cases diagnostic? with
  | none => exact .told _ rfl
  | some diagnostic => exact .cleared uri diagnostic

theorem executeClear_effect (address marked : Argument) :
    Effect workspace operation (workspace.executeClear address marked) := by
  unfold executeClear
  split
  · exact .refused _
  · exact clearDiagnostic_effect _ _
  · exact .told _ rfl

theorem executeIgnoreWord_effect {name : Text} (hname : Command.ofName? name = some .ignoreWord)
    (address marked word : Argument) :
    Effect workspace (.execute name [address, marked, word])
      (workspace.executeIgnoreWord address marked word) := by
  unfold executeIgnoreWord
  cases hitem : word.ignorable with
  | error failure => exact .refused failure
  | ok item =>
    -- the item is ignored whatever the other arguments are; only then they are looked at
    dsimp only
    split
    · exact .ignored _ _ item
    · exact .ignored _ _ item
    · rename_i document hmarked
      exact .misaddressed (Operation.misaddressed?_eq_some_iff.mpr
        ⟨name, document, marked, word, rfl, hname, hmarked, hitem⟩)
    · exact .ignored _ _ item

theorem executeIgnoreAll_effect (address : Argument) :
    Effect workspace operation (workspace.executeIgnoreAll address) := by
  cases address with
  | document document => exact .refused _
  | text uri => exact .ignoredAll uri _
  | diagnostic diagnostic? => exact .told _ rfl

theorem execute_effect (name : Text) (arguments : List Argument) :
    Effect workspace (.execute name arguments) (workspace.execute name arguments) := by
  unfold execute
  cases hname : Command.ofName? name with
  | none => exact .refused _
  | some command =>
    have hrequest : ∀ document, arguments = [.document document] →
        (Operation.execute name arguments).request? = some (command, document) := by
      rintro document rfl
      exact Operation.request?_execute hname document
    dsimp only
    unfold executeCommand
    split
    · rename_i argument
      cases argument with
      | document document => exact highlight_effect (hrequest document rfl)
      | text text => exact .refused _
      | diagnostic diagnostic? => exact .refused _
    · rename_i argument
      cases argument with
      | document document => exact autoCorrect_effect (hrequest document rfl)
      | text text => exact .refused _
      | diagnostic diagnostic? => exact .refused _
    · exact executeClear_effect _ _
    · exact executeIgnoreWord_effect hname _ _ _
    · exact executeIgnoreAll_effect _
    · exact .refused _

/-! ### Steps -/

/-- Every routine `operation` has one of the effects. -/
theorem step_effect (workspace : Workspace) {operation : Operation} (hroutine : operation.isRoutine) :
    Effect workspace operation (workspace.step operation) := by
  cases operation with
  | highlight document => exact highlight_effect rfl
  | autoCorrect document => exact autoCorrect_effect rfl
  | scanText text identifiers? => exact scanText_effect text identifiers?
  | ignoreWord uri diagnostic? word => exact .ignored uri diagnostic? (.word word)
  | ignoreAll uri => exact .ignoredAll uri _
  | clearDiagnostic uri diagnostic? => exact clearDiagnostic_effect uri diagnostic?
  | execute name arguments => exact execute_effect name arguments
  | info => exact .told _ rfl
  | setDiagnostics uri diagnostics => cases hroutine
  | close => cases hroutine
  | quickFixes document diagnostics? =>
    cases diagnostics? with
    | none => exact .offered document none
    | some diagnostics =>
      unfold step
      dsimp only
      split
      · exact .offered document _
      · exact .refused _
  | applyFix document index =>
    show Effect workspace _ ((workspace.session.applyFix document index).map .text, workspace)
    cases workspace.session.applyFix document index with
    | error failure => exact .refused failure
    | ok text => exact .told _ rfl
  | writeFiles nodes =>
    show Effect workspace _ (((workspace.host.writeFiles nodes).1.mapError .write).map fun _ => .done, _)
    refine .wrote _ (workspace.host.writeFiles nodes).2 ?_
    cases (workspace.host.writeFiles nodes).1 with
    | error cause => exact .inr ⟨cause, rfl⟩
    | ok done => exact .inl rfl

/-! ### Runs -/

/-- `workspace.history operations` are `operations` with their answers in the run. -/
def history (workspace : Workspace) (operations : List Operation) :
    List (Operation × Except Failure Answer) :=
  operations.zip (workspace.run operations).1

theorem run_cons (workspace : Workspace) (operation : Operation) (operations : List Operation) :
    workspace.run (operation :: operations)
      = ((workspace.step operation).1 :: ((workspace.step operation).2.run operations).1,
        ((workspace.step operation).2.run operations).2) := rfl

theorem history_cons (workspace : Workspace) (operation : Operation) (operations : List Operation) :
    workspace.history (operation :: operations)
      = (operation, (workspace.step operation).1)
        :: (workspace.step operation).2.history operations := rfl

/-- Induction along a run.  `note` gathers what happened from the operations and their answers; a `P`
of these notes and a workspace that every step of the run keeps holds at its end. -/
theorem run_induction {σ : Type} {P : σ → Workspace → Prop}
    {note : σ → Operation × Except Failure Answer → σ} {operations : List Operation}
    (hstep : ∀ operation ∈ operations, ∀ noted workspace, P noted workspace →
      P (note noted (operation, (workspace.step operation).1)) (workspace.step operation).2)
    {noted : σ} {workspace : Workspace} (h : P noted workspace) :
    P ((workspace.history operations).foldl note noted) (workspace.run operations).2 := by
  induction operations generalizing noted workspace with
  | nil => exact h
  | cons operation operations ih =>
    obtain ⟨hfirst, hlater⟩ := List.forall_mem_cons.mp hstep
    exact ih hlater (hfirst noted workspace h)

/-- A `P` that every step of a run keeps holds at its end. -/
theorem run_invariant {P : Workspace → Prop} {operations : List Operation}
    (hstep : ∀ operation ∈ operations, ∀ workspace : Workspace, P workspace →
      P (workspace.step operation).2)
    {workspace : Workspace} (h : P workspace) : P (workspace.run operations).2 :=
  @run_induction Unit (fun _ => P) (fun noted _ => noted) operations
    (fun operation hmem _ => hstep operation hmem) () workspace h

end Workspace

end CommentSpell
