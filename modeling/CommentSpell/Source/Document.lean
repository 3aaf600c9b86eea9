import CommentSpell.Edit.Batch
import CommentSpell.Report.Diagnostic

/-!
# Documents

A document is a snapshot of a text that the host has open.  Offsets into the text correspond to
positions, which count lines and characters from zero.  A line ends at a carriage return, at a line
feed, or at both together, which are one line break; a line break belongs to the line that it ends.
-/

namespace CommentSpell

/-- The kinds of documents whose comments are checked. -/
inductive DocumentKind where
  | plaintext
  | javascript
  | typescript
deriving DecidableEq

namespace DocumentKind

/-- All kinds, in the order of their names. -/
def all : List DocumentKind :=
  [javascript, plaintext, typescript]

/-- `kind.name` is the name of `kind`; the host uses it as the language of a document. -/
def name : DocumentKind → Text
  | plaintext => "plaintext".toList
  | javascript => "javascript".toList
  | typescript => "typescript".toList

/-- `ofLanguage? language` is the kind of documents in `language`, if they are checked at all. -/
def ofLanguage? (language : Text) : Option DocumentKind :=
  all.find? (·.name == language)

/-- `ofLiteral value` is the kind that `value` names. -/
def ofLiteral (value : Literal) : Except InvalidValue DocumentKind :=
  match value.text?.bind ofLanguage? with
  | some kind => .ok kind
  | none => .error (.unknownName "DocumentKind" value)

end DocumentKind

/-- The place of a `character` on a `line`, both counted from zero. -/
structure Position where
  line : Int
  character : Int
deriving DecidableEq

namespace Position

/-- `a.le b` iff `a` does not come after `b`: the earlier line comes first, and on one line the
earlier character. -/
def le (a b : Position) : Bool :=
  a.line < b.line || (a.line = b.line && a.character ≤ b.character)

end Position

/-- A snapshot of the `text` that the host has open at the address `uri`. -/
structure Document where
  uri : Text
  text : Text
  language : Text := DocumentKind.plaintext.name
  version : Int := 0
deriving DecidableEq

namespace Document

/-- `document.kind?` is the kind of `document`, if documents in its language are checked. -/
def kind? (document : Document) : Option DocumentKind :=
  DocumentKind.ofLanguage? document.language

/-! ### Lines -/

/-- `lineEndsFrom position text` are the offsets just behind the line breaks of `text`, which begins
at offset `position`. -/
def lineEndsFrom (position : Nat) : Text → List Nat
  | [] => []
  | '\r' :: '\n' :: rest => (position + 2) :: lineEndsFrom (position + 2) rest
  | c :: rest =>
    if Text.isLineBreak c then (position + 1) :: lineEndsFrom (position + 1) rest
    else lineEndsFrom (position + 1) rest

/-- `lineStarts text` are the offsets at which the lines of `text` start, in ascending order. -/
def lineStarts (text : Text) : List Nat :=
  0 :: lineEndsFrom 0 text

/-- `document.lineCount` is the number of lines of `document`. -/
def lineCount (document : Document) : Nat :=
  (lineStarts document.text).length

/-! ### Offsets and positions -/

/-- `document.clamp offset` is the nearest offset of the text to `offset`: zero for a negative
integer, and the end of the text for one beyond it. -/
def clamp (document : Document) (offset : Int) : Nat :=
  min offset.toNat document.text.length

/-- `document.positionAt offset` is the position of `offset`, clamped to the text: the last line that
starts there or before, and the distance from its start. -/
def positionAt (document : Document) (offset : Int) : Position :=
  let place := document.clamp offset
  let starts := (lineStarts document.text).takeWhile (· ≤ place)
  ⟨starts.length - 1, place - starts.getLastD 0⟩

/-- `document.offsetAt position` is the offset of `position`, clamped to the text. -/
def offsetAt (document : Document) (position : Position) : Nat :=
  if position.line < 0 then 0
  else
    match (lineStarts document.text)[position.line.toNat]? with
    | some start => min (start + position.character.toNat) document.text.length
    | none => document.text.length

/-- `document.rangeOf span` are the positions of both ends of `span`. -/
def rangeOf (document : Document) (span : Span) : Position × Position :=
  (document.positionAt span.start, document.positionAt span.stop)

/-! ### Text -/

/-- `document.sliceBound bound` is `bound` as an offset: a negative `bound` counts from the end, and
offsets are clamped to the text. -/
def sliceBound (document : Document) (bound : Int) : Nat :=
  document.clamp (if bound < 0 then bound + document.text.length else bound)

/-- `document.slice start? stop?` is the text from `start?` to `stop?`; a missing bound is the start
or the end of the text. -/
def slice (document : Document) (start? stop? : Option Int) : Text :=
  let start := (start?.map document.sliceBound).getD 0
  let stop := (stop?.map document.sliceBound).getD document.text.length
  (document.text.drop start).take (stop - start)

/-- `document.withText text` is the next snapshot of `document`, which reads `text`. -/
def withText (document : Document) (text : Text) : Document :=
  { document with text, version := document.version + 1 }

end Document

end CommentSpell
