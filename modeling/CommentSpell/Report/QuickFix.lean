import CommentSpell.Report.Command
import CommentSpell.Report.Hover

/-!
# Quick fixes

What is offered for the spelling diagnostics of a document: to ignore all its misspellings, to put a
suggestion in place of a marked word, or to ignore the word.  A fix is shown by its title; it may
carry an edit, and a command that goes back to the session, with the arguments of that command.
-/

namespace CommentSpell

/-- A fix for the document at the address `uri`. -/
inductive QuickFix where
  /-- Ignore every word that is marked in the document. -/
  | ignoreAll (uri : Text)
  /-- Write `suggestion` in place of what `diagnostic` marks. -/
  | replace (uri : Text) (diagnostic : Diagnostic) (suggestion : Text)
  /-- Ignore the word that `diagnostic` is about. -/
  | ignoreWord (uri : Text) (diagnostic : Diagnostic)
deriving DecidableEq

namespace QuickFix

/-- The kind of every fix. -/
def kind : Text :=
  "quickfix".toList

/-- `fix.title` is how `fix` is shown. -/
def title : QuickFix → Text
  | ignoreAll _ => "Ignore All Misspellings in Document (Session Only)".toList
  | replace _ _ suggestion => "Replace with \"".toList ++ suggestion ++ ['"']
  | ignoreWord _ diagnostic => "Ignore \"".toList ++ diagnostic.code ++ "\" (Session Only)".toList

/-- `fix.edit?` is the edit that `fix` makes, if it makes one. -/
def edit? : QuickFix → Option TextEdit
  | replace _ diagnostic suggestion => some ⟨diagnostic.span, suggestion⟩
  | _ => none

/-- `fix.command` is the command that follows `fix`. -/
def command : QuickFix → Command
  | ignoreAll _ => .ignoreAll
  | replace .. => .clearDiagnostic
  | ignoreWord .. => .ignoreWord

/-- `fix.arguments` are the arguments of `fix.command`. -/
def arguments : QuickFix → List Argument
  | ignoreAll uri => [.text uri]
  | replace uri diagnostic _ => [.text uri, .diagnostic (some diagnostic)]
  | ignoreWord uri diagnostic => [.text uri, .diagnostic (some diagnostic), .text diagnostic.code]

/-- `fix.diagnostics` are the diagnostics that `fix` is about. -/
def diagnostics : QuickFix → List Diagnostic
  | ignoreAll _ => []
  | replace _ diagnostic _ => [diagnostic]
  | ignoreWord _ diagnostic => [diagnostic]

/-- `fix.isPreferred` iff `fix` is offered before others. -/
def isPreferred : QuickFix → Bool
  | replace .. => true
  | _ => false

/-- `forDiagnostic uri diagnostic` are the fixes for the spelling diagnostic `diagnostic`: one for
each suggestion of its message, and one to ignore its word. -/
def forDiagnostic (uri : Text) (diagnostic : Diagnostic) : List QuickFix :=
  (Hover.suggestions diagnostic.message).map (replace uri diagnostic)
    ++ [ignoreWord uri diagnostic]

/-- `build uri diagnostics ignored hasDiagnostics` are the fixes for `diagnostics` of the document at
`uri`.  The fix to ignore all comes first, if the document has diagnostics; then come the fixes for
each of `diagnostics` that is about spelling and whose word is not `ignored`. -/
def build (uri : Text) (diagnostics : List Diagnostic) (ignored : List Text)
    (hasDiagnostics : Bool) : List QuickFix :=
  (if hasDiagnostics then [ignoreAll uri] else [])
    ++ (diagnostics.filter fun diagnostic =>
          Hover.isSpelling diagnostic.message && diagnostic.code ∉ ignored).flatMap
        (forDiagnostic uri)

end QuickFix

end CommentSpell
