import CommentSpell.Text.Quoted

/-!
# Paths

A path is a list of steps, perhaps from a root.  Empty steps and steps that stay where they are, a
single period, are dropped when a path is read; steps upward, two periods, are kept.  One slash at
the start, or three and more, is the root; exactly two slashes are a root of their own.
-/

namespace CommentSpell

/-- A path: its `root`, written as zero, one or two slashes, and its `steps`. -/
structure Path where
  root : Text
  steps : List Text
deriving DecidableEq

namespace Path

/-- `rootOf text` is the root of the path that is written `text`. -/
def rootOf : Text → Text
  | '/' :: '/' :: '/' :: _ => ['/']
  | '/' :: '/' :: _ => ['/', '/']
  | '/' :: _ => ['/']
  | _ => []

/-- `ofText text` is the path that is written `text`. -/
def ofText (text : Text) : Path where
  root := rootOf text
  steps := (Text.pieces (· == '/') text).filter fun step => step ≠ [] && step ≠ ['.']

/-- `path.toText` is the written form of `path`; a path without root and steps is a single period. -/
def toText (path : Path) : Text :=
  if path.root.isEmpty && path.steps.isEmpty then ['.']
  else path.root ++ Text.join ['/'] path.steps

/-- `path.shown` is the written form of `path`, for messages. -/
def shown (path : Path) : String :=
  String.ofList path.toText

/-- `path.quoted` is the written form of `path` between quotes, for messages. -/
def quoted (path : Path) : String :=
  String.ofList (Text.quoted path.toText)

end Path

end CommentSpell
