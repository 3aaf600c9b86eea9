import CommentSpell.Workspace.Session

/-!
# Operations

Everything that the host can ask of a session, as data.  `Workspace.step` answers one operation and
gives the next state, also when the operation fails; `Workspace.run` answers a list of them.

Commands are operations by name.  Their arguments come from the host and are checked when the command
is executed: first the name, then the number of arguments, then what they are.
-/

namespace CommentSpell

/-- What the host asks of a session. -/
inductive Operation where
  | highlight (document : Document)
  | autoCorrect (document : Document)
  | scanText (text : Text) (identifiers? : Option (List Text))
  | ignoreWord (uri : Text) (diagnostic? : Option Diagnostic) (word : Text)
  | ignoreAll (uri : Text)
  | clearDiagnostic (uri : Text) (diagnostic? : Option Diagnostic)
  | quickFixes (document : Document) (diagnostics? : Option (List (Option Diagnostic)))
  | applyFix (document : Document) (index : Int)
  | execute (name : Text) (arguments : List Argument)
  | setDiagnostics (uri : Text) (diagnostics : List Diagnostic)
  | info
  | close
  /-- Files of the host are written. -/
  | writeFiles (nodes : List (Path × FileNode))
deriving DecidableEq

/-- The answer to an operation. -/
inductive Answer where
  | scan (result : ScanResult)
  | correction (result : CorrectionResult)
  | comments (result : TextScan)
  | flag (value : Bool)
  | count (value : Nat)
  | fixes (fixes : List QuickFix)
  | text (text : Text)
  | info (info : SessionInfo)
  | done
deriving DecidableEq

/-- `argument.ignorable` is what `Command.ignoreWord` puts on the list of ignored words if `argument`
stands where the word should: a text itself, the empty word for `.diagnostic none` and for a
diagnostic that marks nothing, and any other diagnostic itself. -/
def Argument.ignorable : Argument → Except Failure Ignorable
  | .text word => .ok (.word word)
  | .document _ => .error .notAnAddress
  | .diagnostic none => .ok (.word [])
  | .diagnostic (some marked) =>
    match marked.size? with
    | none => .error .tooLong
    | some 0 => .ok (.word [])
    | some _ => .ok (.diagnostic marked)

/-- A `session` and the `host` that it runs on. -/
structure Workspace where
  host : Host
  session : Session

namespace Workspace

/-- `workspace.withSession session` is `workspace` with `session` in place of its own. -/
def withSession (workspace : Workspace) (session : Session) : Workspace :=
  { workspace with session }

/-! ### Operations of the session -/

/-- `workspace.highlight document` scans `document` by `Session.highlight`. -/
def highlight (workspace : Workspace) (document : Document) : Except Failure Answer × Workspace :=
  let (result, session) := workspace.session.highlight workspace.host document
  (result.map .scan, workspace.withSession session)

/-- `workspace.autoCorrect document` corrects `document` by `Session.autoCorrect`. -/
def autoCorrect (workspace : Workspace) (document : Document) :
    Except Failure Answer × Workspace :=
  let (result, session) := workspace.session.autoCorrect workspace.host document
  (result.map .correction, workspace.withSession session)

/-- `workspace.ignore uri diagnostic? item` ignores `item` by `Session.ignore`; the answer is whether
`item` is new. -/
def ignore (workspace : Workspace) (uri : Text) (diagnostic? : Option Diagnostic)
    (item : Ignorable) : Except Failure Answer × Workspace :=
  (.ok (.flag (workspace.session.ignored.lacks item)),
    workspace.withSession (workspace.session.ignore uri diagnostic? item))

/-- `workspace.ignoreAll uri` ignores all words that are marked in the document at `uri`; the answer
is how many of them are new. -/
def ignoreAll (workspace : Workspace) (uri : Text) : Except Failure Answer × Workspace :=
  let session := workspace.session.ignoreAll uri
  (.ok (.count (session.ignored.size - workspace.session.ignored.size)),
    workspace.withSession session)

/-- `workspace.clearDiagnostic uri diagnostic?` takes `diagnostic?` off the document at `uri`; the
answer is whether it was there. -/
def clearDiagnostic (workspace : Workspace) (uri : Text) (diagnostic? : Option Diagnostic) :
    Except Failure Answer × Workspace :=
  match diagnostic? with
  | none => (.ok (.flag false), workspace)
  | some diagnostic =>
    (.ok (.flag (diagnostic ∈ workspace.session.board.get uri)),
      workspace.withSession (workspace.session.clearDiagnostic uri diagnostic))

/-! ### Commands -/

/-- `workspace.onDocument argument operation` is `operation` on the document that `argument` is. -/
def onDocument (workspace : Workspace) (argument : Argument)
    (operation : Document → Except Failure Answer × Workspace) :
    Except Failure Answer × Workspace :=
  match argument with
  | .document document => operation document
  | _ => (.error .notADocument, workspace)

/-- `workspace.executeClear address marked` executes `Command.clearDiagnostic`.  Nothing is marked at
an address that is no text, and what is no diagnostic marks nothing. -/
def executeClear (workspace : Workspace) (address marked : Argument) :
    Except Failure Answer × Workspace :=
  match address, marked with
  | .document _, _ => (.error .notAnAddress, workspace)
  | .text uri, .diagnostic diagnostic? => workspace.clearDiagnostic uri diagnostic?
  | _, _ => (.ok (.flag false), workspace)

/-- `workspace.executeIgnoreWord address marked word` executes `Command.ignoreWord`.  The word is
ignored first; only then a document in place of the address is refused, and only if something is
marked.  At an address that is no text, nothing is marked. -/
def executeIgnoreWord (workspace : Workspace) (address marked word : Argument) :
    Except Failure Answer × Workspace :=
  match word.ignorable with
  | .error failure => (.error failure, workspace)
  | .ok item =>
    match address, marked with
    | .text uri, .diagnostic diagnostic? => workspace.ignore uri diagnostic? item
    | .document _, .diagnostic none => workspace.ignore [] none item
    | .document _, _ => (.error .notAnAddress, (workspace.ignore [] none item).2)
    | _, _ => workspace.ignore [] none item

/-- `workspace.executeIgnoreAll address` executes `Command.ignoreAll`. -/
def executeIgnoreAll (workspace : Workspace) (address : Argument) :
    Except Failure Answer × Workspace :=
  match address with
  | .document _ => (.error .notAnAddress, workspace)
  | .text uri => workspace.ignoreAll uri
  | .diagnostic _ => (.ok (.count 0), workspace)

/-- `workspace.executeCommand command arguments` executes `command`, if the number of `arguments` is
right. -/
def executeCommand (workspace : Workspace) (command : Command) (arguments : List Argument) :
    Except Failure Answer × Workspace :=
  match command, arguments with
  | .highlight, [argument] => workspace.onDocument argument workspace.highlight
  | .autoCorrect, [argument] => workspace.onDocument argument workspace.autoCorrect
  | .clearDiagnostic, [address, marked] => workspace.executeClear address marked
  | .ignoreWord, [address, marked, word] => workspace.executeIgnoreWord address marked word
  | .ignoreAll, [address] => workspace.executeIgnoreAll address
  | _, _ => (.error (.wrongArgumentCount command arguments.length), workspace)

/-- `workspace.execute name arguments` executes the command of that `name`. -/
def execute (workspace : Workspace) (name : Text) (arguments : List Argument) :
    Except Failure Answer × Workspace :=
  match Command.ofName? name with
  | some command => workspace.executeCommand command arguments
  | none => (.error (.unknownCommand name), workspace)

/-! ### Steps and runs -/

/-- `workspace.step operation` is the answer to `operation`, and the workspace after it. -/
def step (workspace : Workspace) : Operation → Except Failure Answer × Workspace
  | .highlight document => workspace.highlight document
  | .autoCorrect document => workspace.autoCorrect document
  | .scanText text identifiers? =>
    let (result, session) := workspace.session.scanText workspace.host text identifiers?
    (result.map .comments, workspace.withSession session)
  | .ignoreWord uri diagnostic? word => workspace.ignore uri diagnostic? (.word word)
  | .ignoreAll uri => workspace.ignoreAll uri
  | .clearDiagnostic uri diagnostic? => workspace.clearDiagnostic uri diagnostic?
  | .quickFixes document none =>
    (.ok (.fixes (workspace.session.quickFixes document none)), workspace)
  | .quickFixes document (some diagnostics) =>
    match diagnostics.mapM id with
    | some diagnostics =>
      (.ok (.fixes (workspace.session.quickFixes document (some diagnostics))), workspace)
    | none => (.error .notADiagnostic, workspace)
  | .applyFix document index =>
    ((workspace.session.applyFix document index).map .text, workspace)
  | .execute name arguments => workspace.execute name arguments
  | .setDiagnostics uri diagnostics =>
    (.ok .done,
      workspace.withSession
        { workspace.session with board := workspace.session.board.set uri diagnostics })
  | .info => (.ok (.info workspace.session.info), workspace)
  | .close => (.ok .done, workspace.withSession workspace.session.close)
  | .writeFiles nodes =>
    let (result, host) := workspace.host.writeFiles nodes
    ((result.mapError .write).map fun _ => .done, { workspace with host })

/-- `workspace.run operations` are the answers to `operations`, in order, and the workspace after
them. -/
def run (workspace : Workspace) : List Operation → List (Except Failure Answer) × Workspace
  | [] => ([], workspace)
  | operation :: operations =>
    let (answer, next) := workspace.step operation
    let (answers, last) := next.run operations
    (answer :: answers, last)

end Workspace

end CommentSpell
