import CommentSpell.Text.Blank

/-!
# Hover messages

The message of a spelling diagnostic lists the suggestions for its word, parted by a comma and a
space, or says that there are none.  The suggestions can be read back from the message; items that
are blank are not suggestions.
-/

namespace CommentSpell

namespace Hover

/-- How a message with suggestions begins. -/
def heading : Text :=
  "Suggestions: ".toList

/-- The message when there is no suggestion. -/
def noSuggestions : Text :=
  "No suggestions available.".toList

/-- `message suggestions` is the message that lists `suggestions`. -/
def message (suggestions : List Text) : Text :=
  if suggestions.isEmpty then noSuggestions else heading ++ Text.join [',', ' '] suggestions

/-- `isSpelling message` iff `message` begins as a spelling message does. -/
def isSpelling (message : Text) : Bool :=
  Text.startsWith message heading || Text.startsWith message noSuggestions

/-- `suggestions message` are the suggestions that `message` lists. -/
def suggestions (message : Text) : List Text :=
  match Text.after? heading message with
  | some body => (Text.commaItems body).filter fun item => !(Text.trim item).isEmpty
  | none => []

end Hover

end CommentSpell
