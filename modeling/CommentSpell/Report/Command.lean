import CommentSpell.Source.Document

/-!
# Commands

The commands by which the host reaches a session, and their arguments.  A command is known to the
host by its name.
-/

namespace CommentSpell

/-- The commands that a session understands. -/
inductive Command where
  | highlight
  | autoCorrect
  | clearDiagnostic
  | ignoreWord
  | ignoreAll
deriving DecidableEq

namespace Command

/-- All commands. -/
def all : List Command :=
  [highlight, autoCorrect, clearDiagnostic, ignoreWord, ignoreAll]

/-- `command.name` is the name by which the host knows `command`. -/
def name : Command → Text
  | highlight => "clean-documenter.highlightMisspellings".toList
  | autoCorrect => "clean-documenter.autoCorrectComments".toList
  | clearDiagnostic => "clean-documenter.clearDiagnostic".toList
  | ignoreWord => "clean-documenter.ignoreWord".toList
  | ignoreAll => "clean-documenter.ignoreAllMisspellings".toList

/-- `ofName? name` is the command of that `name`. -/
def ofName? (name : Text) : Option Command :=
  all.find? (·.name == name)

end Command

/-- An argument of a command: a document, a text, or a diagnostic, which may be missing. -/
inductive Argument where
  | document (document : Document)
  | text (text : Text)
  | diagnostic (diagnostic? : Option Diagnostic)
deriving DecidableEq

end CommentSpell
