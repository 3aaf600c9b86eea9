import CommentSpell.Edit.Span

/-!
# Diagnostics

A diagnostic marks a span of a document.  The `code` of a spelling diagnostic is the word that it is
about, so that the word can be ignored or corrected without another scan.
-/

namespace CommentSpell

/-- How a diagnostic is shown. -/
inductive Severity where
  | error
  | warning
  | information
  | hint
deriving DecidableEq

namespace Severity

/-- All severities. -/
def all : List Severity :=
  [error, warning, information, hint]

/-- `severity.name` is the name of `severity`. -/
def name : Severity → Text
  | error => "error".toList
  | warning => "warning".toList
  | information => "information".toList
  | hint => "hint".toList

/-- `ofName? name` is the severity of that `name`, if there is one. -/
def ofName? (name : Text) : Option Severity :=
  all.find? (·.name == name)

/-- `ofLiteral value` is the severity that `value` names. -/
def ofLiteral (value : Literal) : Except InvalidValue Severity :=
  match value.text?.bind ofName? with
  | some severity => .ok severity
  | none => .error (.unknownName "Severity" value)

end Severity

/-- A mark on the `span` of a document, which shows `message` and is about the word `code`. -/
structure Diagnostic where
  span : Span
  message : Text
  code : Text
  severity : Severity := .warning
deriving DecidableEq

namespace Diagnostic

/-- `ofInts start stop message code severity` is the diagnostic of the characters from `start` to
`stop`, or the reason why there is none. -/
def ofInts (start stop : Int) (message code : Text) (severity : Severity) :
    Except InvalidValue Diagnostic :=
  (Span.ofInts "range_start" "range_end" start stop).map fun span =>
    ⟨span, message, code, severity⟩

/-- `diagnostic.size?` is the number of characters that are marked, as a signed machine word of 64
bits; longer spans have no such number. -/
def size? (diagnostic : Diagnostic) : Option Nat :=
  if diagnostic.span.length < 1 <<< 63 then some diagnostic.span.length else none

end Diagnostic

end CommentSpell
