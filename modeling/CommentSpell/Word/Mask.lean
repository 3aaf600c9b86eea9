import CommentSpell.Source.Identifier
import CommentSpell.Sorting
import CommentSpell.Text.WordChar

/-!
# Masking restated calls

A call of the code that a comment restates word for word is blanked, with its arguments, before the
comment is cut into tokens.  A restated call must start a word: no word character of any script and
no dollar sign stands before it.  Blanking keeps the length, so offsets into the masked text are
offsets into the comment.

Longer calls are blanked first, so that a call is blanked as a whole even if a shorter one is its
end.
-/

namespace CommentSpell

/-- `freesCall before` iff a call may begin behind `before`: neither a word character nor `$`, or the
edge of the text. -/
def freesCall : Option Char → Bool
  | some c => !(Text.isWordChar c || c == '$')
  | none => true

/-- `restatedSite call` recognises the places where a text restates `call`. -/
def restatedSite (call : Text) : Site Unit := fun before rest =>
  if freesCall before && Text.startsWith rest call then some ((), call.length) else none

/-- `maskCall text call` is `text` with each restatement of `call` blanked. -/
def maskCall (text call : Text) : Text :=
  substitute (restatedSite call) (fun _ hidden => hidden.map fun _ => ' ') text

/-- `restatedCalls identifiers text` are the calls among `identifiers` that occur in `text`, longest
first. -/
def restatedCalls (identifiers : List Text) (text : Text) : List Text :=
  sortBy (fun a b => b.length ≤ a.length)
    (identifiers.filter fun identifier =>
      Identifier.isCall identifier && Text.contains identifier text)

/-- `maskCalls identifiers text` is `text` with each restatement of each call among `identifiers`
blanked. -/
def maskCalls (identifiers : List Text) (text : Text) : Text :=
  (restatedCalls identifiers text).foldl maskCall text

end CommentSpell
