import CommentSpell.Proofs.Workspace.Step

/-!
# What operations ask of host and provider

Scans of texts, and scans and corrections of supported documents, need the dictionary
(`Operation.needsDictionary`).  Such an operation learns of the host and of the provider what
`OnDemand.get` answers, and nothing else (`Consults`).  Writes of files apart, any other operation learns no
more of them than whether a dictionary is loaded (`IsQuiet`).  To say so, a workspace is moved to another
host and given another provider (`Workspace.moved`).
-/

namespace CommentSpell

/-! ### Operations that need the dictionary -/

namespace Operation

/-- `needsDictionary settings operation` iff `operation` scans a text, or scans or corrects a document
that `settings` support. -/
def needsDictionary (settings : Settings) (operation : Operation) : Bool :=
  match operation.request?, operation with
  | some (.highlight, document), _ => settings.supports document.language
  | some (.autoCorrect, document), _ => settings.supports document.language
  | none, scanText .. => true
  | _, _ => false

/-- `operation.writesFiles` iff `operation` writes files of the host. -/
def writesFiles : Operation → Bool
  | .writeFiles _ => true
  | _ => false

end Operation

/-- `argument.ignorable` is no failure to load a dictionary. -/
theorem Argument.ignorable_ne_load (argument : Argument) (cause : LoadError) :
    argument.ignorable ≠ .error (.load cause) := by
  cases argument with
  | document document => nofun
  | text word => nofun
  | diagnostic diagnostic? =>
    cases diagnostic? with
    | none => nofun
    | some marked =>
      unfold ignorable
      dsimp only
      split <;> nofun

namespace Session

/-- `withDictionary` on another host and with another provider gives the same answer and session, the
provider apart, if the provider finds the same dictionary there. -/
theorem withDictionary_moved {α : Type} {session : Session}
    {use : Session → Dictionary → Except Failure α × Session}
    (huse : ∀ session dictionary provider, use { session with provider } dictionary
      = ((use session dictionary).1, { (use session dictionary).2 with provider }))
    {host host' : Host} {provider' : OnDemand}
    (hsame : (provider'.get host').1 = (session.provider.get host).1) :
    ({ session with provider := provider' } : Session).withDictionary host' use
      = ((session.withDictionary host use).1,
        { (session.withDictionary host use).2 with provider := (provider'.get host').2 }) := by
  unfold withDictionary
  dsimp only
  rcases hget : session.provider.get host with ⟨result, loaded⟩
  rcases hget' : provider'.get host' with ⟨result', loaded'⟩
  obtain rfl : result' = result := by
    rwa [hget, hget'] at hsame
  cases result' with
  | error cause => rfl
  | ok dictionary =>
    dsimp only
    rw [huse session dictionary loaded, huse session dictionary loaded']

theorem withDictionary_load_iff {α : Type} {session : Session} {host : Host}
    {use : Session → Dictionary → Except Failure α × Session}
    (huse : ∀ session dictionary cause, (use session dictionary).1 ≠ .error (.load cause))
    (cause : LoadError) :
    (session.withDictionary host use).1 = .error (.load cause)
      ↔ (session.provider.get host).1 = .error cause := by
  unfold withDictionary
  rcases session.provider.get host with ⟨fault | dictionary, loaded⟩
  · simp
  · simp [huse]

end Session

namespace Workspace

variable {workspace : Workspace} {document : Document}

/-- `workspace.moved host provider` is `workspace` on another `host` and with another `provider`; all
else of the session stays. -/
def moved (workspace : Workspace) (host : Host) (provider : OnDemand) : Workspace where
  host
  session := { workspace.session with provider }

/-- `IsQuiet act workspace` iff `act` neither reads the host of `workspace`, nor its provider except
for what is loaded, and is answered without a failure to load. -/
structure IsQuiet (act : Workspace → Except Failure Answer × Workspace) (workspace : Workspace) :
    Prop where
  moved : ∀ host provider, provider.loaded? = workspace.session.provider.loaded? →
    act (workspace.moved host provider) = ((act workspace).1, (act workspace).2.moved host provider)
  ne_load : ∀ cause, (act workspace).1 ≠ .error (.load cause)

/-- `Consults act workspace` iff `act` asks the provider of `workspace` once, reads nothing else of
host and provider, and fails to load if the provider does. -/
structure Consults (act : Workspace → Except Failure Answer × Workspace) (workspace : Workspace) :
    Prop where
  moved : ∀ host provider,
    (provider.get host).1 = (workspace.session.provider.get workspace.host).1 →
      act (workspace.moved host provider)
        = ((act workspace).1, (act workspace).2.moved host (provider.get host).2)
  load_iff : ∀ cause, (act workspace).1 = .error (.load cause)
    ↔ (workspace.session.provider.get workspace.host).1 = .error cause

theorem map_eq_load_iff {α : Type} {result : Except Failure α} {wrap : α → Answer} {cause : LoadError} :
    result.map wrap = .error (.load cause) ↔ result = .error (.load cause) := by
  cases result <;> simp [Except.map]

/-! ### Scans and corrections -/

theorem consults_highlight (hsupported : workspace.session.settings.supports document.language) :
    Consults (·.highlight document) workspace where
  moved host provider hsame := by
    unfold highlight Session.highlight Workspace.moved
    dsimp only
    rw [if_pos hsupported, if_pos hsupported, Session.withDictionary_moved (fun _ _ _ => rfl) hsame]
    rfl
  load_iff cause := by
    unfold highlight Session.highlight
    rw [if_pos hsupported]
    dsimp only
    rw [map_eq_load_iff, Session.withDictionary_load_iff]
    simp

theorem isQuiet_highlight (hsupported : ¬ workspace.session.settings.supports document.language) :
    IsQuiet (·.highlight document) workspace where
  moved host provider _ := by
    unfold highlight Session.highlight Workspace.moved
    dsimp only
    rw [if_neg hsupported, if_neg hsupported]
    rfl
  ne_load cause := by
    unfold highlight Session.highlight
    rw [if_neg hsupported]
    simp [Except.map]

theorem consults_autoCorrect (hsupported : workspace.session.settings.supports document.language) :
    Consults (·.autoCorrect document) workspace where
  moved host provider hsame := by
    unfold autoCorrect Session.autoCorrect Workspace.moved
    dsimp only
    simp only [Judge.applyAll_corrections]
    rw [if_pos hsupported, if_pos hsupported, Session.withDictionary_moved (fun _ _ _ => rfl) hsame]
    rfl
  load_iff cause := by
    unfold autoCorrect Session.autoCorrect
    dsimp only
    simp only [Judge.applyAll_corrections]
    rw [if_pos hsupported, map_eq_load_iff, Session.withDictionary_load_iff]
    simp

theorem isQuiet_autoCorrect (hsupported : ¬ workspace.session.settings.supports document.language) :
    IsQuiet (·.autoCorrect document) workspace where
  moved host provider _ := by
    unfold autoCorrect Session.autoCorrect Workspace.moved
    dsimp only
    rw [if_neg hsupported, if_neg hsupported]
    rfl
  ne_load cause := by
    unfold autoCorrect Session.autoCorrect
    rw [if_neg hsupported]
    simp [Except.map]

theorem consults_scanText (text : Text) (identifiers? : Option (List Text)) :
    Consults (·.step (.scanText text identifiers?)) workspace where
  moved host provider hsame := by
    unfold step Session.scanText Workspace.moved
    dsimp only
    rw [Session.withDictionary_moved (fun _ _ _ => rfl) hsame]
    rfl
  load_iff cause := by
    unfold step Session.scanText
    dsimp only
    rw [map_eq_load_iff, Session.withDictionary_load_iff]
    simp

/-! ### Other operations -/

theorem isQuiet_clearDiagnostic (uri : Text) (diagnostic? : Option Diagnostic) :
    IsQuiet (·.clearDiagnostic uri diagnostic?) workspace := by
  cases diagnostic? with
  | none => exact ⟨fun _ _ _ => rfl, nofun⟩
  | some diagnostic => exact ⟨fun _ _ _ => rfl, nofun⟩

theorem isQuiet_ignoreAll (uri : Text) : IsQuiet (·.ignoreAll uri) workspace where
  moved host provider _ := by
    unfold ignoreAll Session.ignoreAll Workspace.moved
    dsimp only
    split <;> rfl
  ne_load := nofun

theorem isQuiet_quickFixes (document : Document) (diagnostics? : Option (List (Option Diagnostic))) :
    IsQuiet (·.step (.quickFixes document diagnostics?)) workspace := by
  cases diagnostics? with
  | none => exact ⟨fun _ _ _ => rfl, nofun⟩
  | some diagnostics =>
    unfold step
    dsimp only
    split
    · exact ⟨fun _ _ _ => rfl, nofun⟩
    · exact ⟨fun _ _ _ => rfl, nofun⟩

theorem isQuiet_applyFix (document : Document) (index : Int) :
    IsQuiet (·.step (.applyFix document index)) workspace where
  moved _ _ _ := rfl
  ne_load cause := by
    show (workspace.session.applyFix document index).map Answer.text ≠ .error (.load cause)
    rw [Ne, map_eq_load_iff]
    unfold Session.applyFix
    dsimp only
    split
    · nofun
    · split
      · nofun
      · split <;> nofun

theorem isQuiet_info : IsQuiet (·.step .info) workspace where
  moved host provider hloaded := by
    unfold step Session.info OnDemand.isLoaded Workspace.moved
    dsimp only
    rw [hloaded]
  ne_load := nofun

theorem isQuiet_executeClear (address marked : Argument) :
    IsQuiet (·.executeClear address marked) workspace := by
  unfold executeClear
  split
  · exact ⟨fun _ _ _ => rfl, nofun⟩
  · exact isQuiet_clearDiagnostic _ _
  · exact ⟨fun _ _ _ => rfl, nofun⟩

theorem isQuiet_executeIgnoreWord (address marked word : Argument) :
    IsQuiet (·.executeIgnoreWord address marked word) workspace := by
  unfold executeIgnoreWord
  cases hitem : word.ignorable with
  | error failure =>
    refine ⟨fun _ _ _ => rfl, fun cause hfailed => word.ignorable_ne_load cause ?_⟩
    rw [hitem, Except.error.inj hfailed]
  | ok item =>
    dsimp only
    split
    all_goals exact ⟨fun _ _ _ => rfl, nofun⟩

theorem isQuiet_executeIgnoreAll (address : Argument) :
    IsQuiet (·.executeIgnoreAll address) workspace := by
  cases address with
  | document document => exact ⟨fun _ _ _ => rfl, nofun⟩
  | text uri => exact isQuiet_ignoreAll uri
  | diagnostic diagnostic? => exact ⟨fun _ _ _ => rfl, nofun⟩

/-- `executeCommand command arguments` is quiet if `arguments` are not one document. -/
theorem isQuiet_executeCommand {command : Command} {arguments : List Argument}
    (harguments : ∀ document, arguments ≠ [.document document]) :
    IsQuiet (·.executeCommand command arguments) workspace := by
  have honDocument : ∀ {argument : Argument}, arguments = [argument] →
      ∀ operation : Workspace → Document → Except Failure Answer × Workspace,
        IsQuiet (fun workspace => workspace.onDocument argument (operation workspace)) workspace := by
    rintro argument rfl operation
    cases argument with
    | document document => exact absurd rfl (harguments document)
    | text text => exact ⟨fun _ _ _ => rfl, nofun⟩
    | diagnostic diagnostic? => exact ⟨fun _ _ _ => rfl, nofun⟩
  unfold executeCommand
  split
  · exact honDocument rfl highlight
  · exact honDocument rfl autoCorrect
  · exact isQuiet_executeClear _ _
  · exact isQuiet_executeIgnoreWord _ _ _
  · exact isQuiet_executeIgnoreAll _
  · exact ⟨fun _ _ _ => rfl, nofun⟩

/-- The step of an `operation` with `request? = some (command, document)` is that command on
`document`. -/
theorem step_of_request {operation : Operation} {command : Command}
    (hrequest : operation.request? = some (command, document)) :
    (fun workspace => step workspace operation)
      = fun workspace => executeCommand workspace command [.document document] := by
  funext workspace
  unfold Operation.request? at hrequest
  split at hrequest
  · cases hrequest
    rfl
  · cases hrequest
    rfl
  · rename_i name document'
    obtain ⟨command', hname, heq⟩ := Option.map_eq_some_iff.mp hrequest
    cases heq
    unfold step execute
    dsimp only
    rw [hname]
  · cases hrequest

/-! ### Steps -/

variable {operation : Operation}

/-- The step of an `operation` that needs the dictionary consults the provider. -/
theorem consults_step (hneeds : operation.needsDictionary workspace.session.settings) :
    Consults (·.step operation) workspace := by
  unfold Operation.needsDictionary at hneeds
  split at hneeds
  · rename_i document _ hrequest
    rw [step_of_request hrequest]
    exact consults_highlight hneeds
  · rename_i document _ hrequest
    rw [step_of_request hrequest]
    exact consults_autoCorrect hneeds
  · exact consults_scanText _ _
  · cases hneeds

/-- The step of a `command` on `document` is quiet if it does not need the dictionary. -/
theorem isQuiet_request {command : Command}
    (hrequest : operation.request? = some (command, document))
    (hneeds : operation.needsDictionary workspace.session.settings = false) :
    IsQuiet (·.step operation) workspace := by
  unfold Operation.needsDictionary at hneeds
  rw [hrequest] at hneeds
  rw [step_of_request hrequest]
  cases command with
  | highlight => exact isQuiet_highlight (Bool.eq_false_iff.mp hneeds)
  | autoCorrect => exact isQuiet_autoCorrect (Bool.eq_false_iff.mp hneeds)
  | clearDiagnostic => exact ⟨fun _ _ _ => rfl, nofun⟩
  | ignoreWord => exact ⟨fun _ _ _ => rfl, nofun⟩
  | ignoreAll => exact ⟨fun _ _ _ => rfl, nofun⟩

theorem isQuiet_execute {name : Text} {arguments : List Argument}
    (hrequest : (Operation.execute name arguments).request? = none) :
    IsQuiet (·.execute name arguments) workspace := by
  unfold execute
  cases hname : Command.ofName? name with
  | none => exact ⟨fun _ _ _ => rfl, nofun⟩
  | some command =>
    refine isQuiet_executeCommand fun document heq => ?_
    rw [heq, Operation.request?_execute hname document] at hrequest
    cases hrequest

/-- The step of an `operation` is quiet if it neither needs the dictionary nor writes files. -/
theorem isQuiet_step (hneeds : operation.needsDictionary workspace.session.settings = false)
    (hwrites : operation.writesFiles = false) : IsQuiet (·.step operation) workspace := by
  rcases hrequest : operation.request? with _ | ⟨command, document⟩
  · cases operation with
    | highlight document => cases hrequest
    | autoCorrect document => cases hrequest
    | scanText text identifiers? => cases hneeds
    | ignoreWord uri diagnostic? word => exact ⟨fun _ _ _ => rfl, nofun⟩
    | ignoreAll uri => exact isQuiet_ignoreAll uri
    | clearDiagnostic uri diagnostic? => exact isQuiet_clearDiagnostic uri diagnostic?
    | quickFixes document diagnostics? => exact isQuiet_quickFixes document diagnostics?
    | applyFix document index => exact isQuiet_applyFix document index
    | execute name arguments => exact isQuiet_execute hrequest
    | setDiagnostics uri diagnostics => exact ⟨fun _ _ _ => rfl, nofun⟩
    | info => exact isQuiet_info
    | close => exact ⟨fun _ _ _ => rfl, nofun⟩
    | writeFiles nodes => cases hwrites
  · exact isQuiet_request hrequest hneeds

/-! ### What a step does to the provider -/

theorem moved_self (workspace : Workspace) :
    workspace.moved workspace.host workspace.session.provider = workspace := rfl

theorem Consults.provider_eq (h : Consults (·.step operation) workspace) :
    (workspace.step operation).2.session.provider
      = (workspace.session.provider.get workspace.host).2 := by
  have hstep := h.moved workspace.host workspace.session.provider rfl
  rw [moved_self] at hstep
  exact congrArg (·.2.session.provider) hstep

theorem IsQuiet.provider_eq (h : IsQuiet (·.step operation) workspace) :
    (workspace.step operation).2.session.provider = workspace.session.provider := by
  have hstep := h.moved workspace.host workspace.session.provider rfl
  rw [moved_self] at hstep
  exact congrArg (·.2.session.provider) hstep

end Workspace

end CommentSpell
