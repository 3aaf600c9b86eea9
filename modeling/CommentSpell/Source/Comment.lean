import CommentSpell.Text.Segment
import CommentSpell.InvalidValue

/-!
# Comments

Two forms of comment.  A line comment is `//` with all that follows it on its line.  A block comment
runs from `/*` to the nearest `*/` behind it; the two delimiters do not share their asterisk, and
an opener without a closer is no comment.  Comments are found from the left and do not overlap, so
an opener inside a comment opens nothing.  Text literals of the surrounding code are not known
here: a delimiter inside one counts.
-/

namespace CommentSpell

/-- The form of a comment. -/
inductive CommentKind where
  | line
  | block
deriving DecidableEq

/-- A comment: its `text` with the delimiters, and the offset `start` of its first character in the
source. -/
structure Comment where
  text : Text
  start : Nat
deriving DecidableEq

namespace Comment

/-! ### Recognising a comment -/

/-- `closerEnd? text = some n` if the nearest `*/` of `text` ends behind the first `n` characters. -/
def closerEnd? : Text → Option Nat
  | [] => none
  | '*' :: '/' :: _ => some 2
  | _ :: rest => (closerEnd? rest).map (· + 1)

/-- `length? text` is the length of the comment that begins at the start of `text`: up to the end of
the line behind `//`, up to the nearest closer behind `/*`. -/
def length? : Text → Option Nat
  | '/' :: '/' :: rest => some (2 + (rest.takeWhile (!Text.isLineBreak ·)).length)
  | '/' :: '*' :: rest => (closerEnd? rest).map (2 + ·)
  | _ => none

/-- The `Site` of comments: the places where `length?` finds one. -/
def site : Site Unit := fun _ rest =>
  (length? rest).map fun length => ((), length)

/-- `extract source` are the comments of `source`, in their order. -/
def extract (source : Text) : List Comment :=
  (sites site source).map fun hit => ⟨hit.text, hit.start⟩

/-- `strip source` is `source` with its comments deleted. -/
def strip (source : Text) : Text :=
  substitute site (fun _ _ => []) source

/-! ### A single comment -/

/-- `comment.stop` is the offset just behind `comment`. -/
def stop (comment : Comment) : Nat :=
  comment.start + comment.text.length

/-- `comment.kind` is `.line` if the text of `comment` begins with two slashes, and `.block`
otherwise. -/
def kind (comment : Comment) : CommentKind :=
  if Text.startsWith comment.text ['/', '/'] then .line else .block

/-- `ofOffset text start` is the comment that reads `text` at offset `start`, which must not be
negative. -/
def ofOffset (text : Text) (start : Int) : Except InvalidValue Comment :=
  if start < 0 then .error (.negative "start_offset" start) else .ok ⟨text, start.toNat⟩

end Comment

end CommentSpell
