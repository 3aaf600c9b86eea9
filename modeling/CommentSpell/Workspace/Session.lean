import CommentSpell.Edit.Correction
import CommentSpell.Report.Board
import CommentSpell.Report.IgnoreList
import CommentSpell.Report.Placement
import CommentSpell.Report.QuickFix
import CommentSpell.Workspace.Settings

/-!
# Sessions

A session owns what one run of the host needs for checking: its settings, the dictionary, which is
loaded when it is first needed, the words that the user ignores, and the diagnostics of the open
documents.

Scanning a document replaces its diagnostics; documents in a language that is not supported are
answered without a scan and without a dictionary.  If the dictionary cannot be loaded, the operation
fails and leaves diagnostics and ignored words as they were.
-/

namespace CommentSpell

/-- The misspellings of a text, by comment, and the `tally` of all its tokens. -/
structure TextScan where
  comments : List (Comment × List Misspelling)
  tally : Tally
deriving DecidableEq

/-- The answer to a scan of the document at `uri`. -/
structure ScanResult where
  uri : Text
  supported : Bool
  commentCount : Nat := 0
  diagnostics : List Diagnostic := []
  tally : Tally := {}
deriving DecidableEq

/-- The answer to an automatic correction of the document at `uri`, whose text was `before`. -/
structure CorrectionResult where
  uri : Text
  supported : Bool
  before : Text
  after : Text
  edits : List TextEdit := []
deriving DecidableEq

namespace CorrectionResult

/-- `result.changed` iff the correction changed some comment. -/
def changed (result : CorrectionResult) : Bool :=
  !result.edits.isEmpty

end CorrectionResult

/-- Why an operation of a session failed. -/
inductive Failure where
  | load (cause : LoadError)
  | conflict (cause : EditConflict)
  | write (cause : WriteFault)
  | unknownCommand (name : Text)
  | wrongArgumentCount (command : Command) (given : Nat)
  /-- Something else was given where a document is needed. -/
  | notADocument
  /-- Something else was given where a diagnostic is needed. -/
  | notADiagnostic
  /-- A document was given where its address, or a word, is needed. -/
  | notAnAddress
  /-- The quick fix has no edit to apply. -/
  | noEdit
  /-- There is no quick fix of the number `index`. -/
  | noSuchFix (index : Int)
  /-- A diagnostic marks more characters than can be counted. -/
  | tooLong
deriving DecidableEq

namespace Failure

/-- `failure.message?` is the wording of `failure`; a misuse that needs no words has none. -/
def message? : Failure → Option String
  | load cause => some cause.message
  | conflict cause => some cause.message
  | unknownCommand name =>
    let shown := String.ofList (Text.quoted name)
    some s!"Unknown command: {shown}"
  | _ => none

end Failure

/-- What a session tells about itself. -/
structure SessionInfo where
  dictionaryLoaded : Bool
  ignoredWords : Nat
  diagnosticCount : Nat
  supportedKinds : List DocumentKind
deriving DecidableEq

/-- The state of a session: its `settings`, the `provider` of its dictionary, the words that are
`ignored`, and the `board` of diagnostics. -/
structure Session where
  settings : Settings
  provider : OnDemand
  ignored : IgnoreList := ∅
  board : Board := ∅

namespace Judge

/-- `judge.scan text` are the misspellings of `text`, by comment, and the tally of all its tokens. -/
def scan (judge : Judge) (text : Text) : TextScan :=
  let judged := (Comment.extract text).map fun comment => (comment, judge.verdicts comment.text)
  { comments := judged.map fun (comment, verdicts) =>
      (comment, verdicts.filterMap Verdict.misspelling?)
    tally := judged.foldl (fun tally (_, verdicts) => tally + .ofVerdicts verdicts) {} }

end Judge

namespace TextScan

/-- `scan.diagnostics severity identifiers` are the diagnostics of the misspellings of `scan`, comment
by comment. -/
def diagnostics (scan : TextScan) (severity : Severity) (identifiers : List Text) :
    List Diagnostic :=
  scan.comments.flatMap fun (comment, misspellings) =>
    comment.place misspellings severity identifiers

end TextScan

namespace Session

/-- `start settings provider?` is a session with `settings`, whose dictionary comes from `provider?`,
or from `settings.provider` if none is given. -/
def start (settings : Settings) (provider? : Option OnDemand) : Session where
  settings := settings
  provider := provider?.getD settings.provider

/-- `session.judge dictionary identifiers` is what `session` judges words by. -/
def judge (session : Session) (dictionary : Dictionary) (identifiers : List Text) : Judge where
  dictionary := dictionary
  minWordLength := session.settings.minWordLength
  identifiers := identifiers
  ignored := session.ignored.words

/-! ### Operations that need the dictionary -/

/-- `session.withDictionary host use` runs `use` with the dictionary, which is loaded first if it has
not been loaded before. -/
def withDictionary {α : Type} (session : Session) (host : Host)
    (use : Session → Dictionary → Except Failure α × Session) : Except Failure α × Session :=
  match session.provider.get host with
  | (.ok dictionary, provider) => use { session with provider } dictionary
  | (.error cause, provider) => (.error (.load cause), { session with provider })

/-- `session.scanText host text identifiers?` are the misspellings of `text`; its identifiers are
taken from `text` if they are not given. -/
def scanText (session : Session) (host : Host) (text : Text) (identifiers? : Option (List Text)) :
    Except Failure TextScan × Session :=
  session.withDictionary host fun session dictionary =>
    let identifiers := identifiers?.getD (Identifier.extract text)
    (.ok ((session.judge dictionary identifiers).scan text), session)

/-- `session.highlight host document` scans `document` and replaces its diagnostics. -/
def highlight (session : Session) (host : Host) (document : Document) :
    Except Failure ScanResult × Session :=
  if session.settings.supports document.language then
    session.withDictionary host fun session dictionary =>
      let identifiers := Identifier.extract document.text
      let scan := (session.judge dictionary identifiers).scan document.text
      let diagnostics := scan.diagnostics session.settings.severity identifiers
      (.ok
        { uri := document.uri
          supported := true
          commentCount := scan.comments.length
          diagnostics
          tally := scan.tally },
        { session with board := session.board.set document.uri diagnostics })
  else (.ok { uri := document.uri, supported := false }, session)

/-- `session.autoCorrect host document` is the automatic correction of `document`. -/
def autoCorrect (session : Session) (host : Host) (document : Document) :
    Except Failure CorrectionResult × Session :=
  if session.settings.supports document.language then
    session.withDictionary host fun session dictionary =>
      let judge := session.judge dictionary (Identifier.extract document.text)
      let edits := judge.corrections document.text
      match TextEdit.applyAll edits document.text with
      | .error cause => (.error (.conflict cause), session)
      | .ok after =>
        (.ok
          { uri := document.uri
            supported := true
            before := document.text
            after
            edits },
          session)
  else
    (.ok
      { uri := document.uri
        supported := false
        before := document.text
        after := document.text },
      session)

/-! ### Ignored words and diagnostics -/

/-- `session.ignore uri diagnostic? item` has `item` on the list of ignored words, and `diagnostic?`, from
which it was chosen, taken off the document at `uri`. -/
def ignore (session : Session) (uri : Text) (diagnostic? : Option Diagnostic) (item : Ignorable) :
    Session :=
  { session with
    ignored := session.ignored.add item
    board :=
      match diagnostic? with
      | some diagnostic => session.board.erase uri diagnostic
      | none => session.board }

/-- `session.ignoreAll uri` has the words of all diagnostics of the document at `uri` ignored, and
these diagnostics dropped. -/
def ignoreAll (session : Session) (uri : Text) : Session :=
  match session.board.get uri with
  | [] => session
  | diagnostics =>
    { session with
      ignored := session.ignored.insertAll (diagnostics.map Diagnostic.code)
      board := session.board.delete uri }

/-- `session.clearDiagnostic uri diagnostic` has `diagnostic` taken off the document at `uri`. -/
def clearDiagnostic (session : Session) (uri : Text) (diagnostic : Diagnostic) : Session :=
  { session with board := session.board.erase uri diagnostic }

/-- `session.close` has no ignored words and no diagnostics; its dictionary stays. -/
def close (session : Session) : Session :=
  { session with ignored := ∅, board := ∅ }

/-! ### Quick fixes -/

/-- `session.quickFixes document diagnostics?` are the quick fixes for `diagnostics?` of `document`,
or for all that it has. -/
def quickFixes (session : Session) (document : Document) (diagnostics? : Option (List Diagnostic)) :
    List QuickFix :=
  let current := session.board.get document.uri
  QuickFix.build document.uri (diagnostics?.getD current) session.ignored.words
    (!current.isEmpty)

/-- `session.applyFix document index` is the text of `document` after the edit of its current quick
fix number `index`, which counts from the end if it is negative. -/
def applyFix (session : Session) (document : Document) (index : Int) : Except Failure Text :=
  let fixes := session.quickFixes document none
  let place := if index < 0 then index + fixes.length else index
  match (if place < 0 then none else fixes[place.toNat]?) with
  | none => .error (.noSuchFix index)
  | some fix =>
    match fix.edit? with
    | none => .error .noEdit
    | some edit =>
      match TextEdit.applyAll [edit] document.text with
      | .ok text => .ok text
      | .error cause => .error (.conflict cause)

/-- `session.info` is what `session` tells about itself. -/
def info (session : Session) : SessionInfo where
  dictionaryLoaded := session.provider.isLoaded
  ignoredWords := session.ignored.size
  diagnosticCount := session.board.size
  supportedKinds := session.settings.supportedKinds

end Session

end CommentSpell
