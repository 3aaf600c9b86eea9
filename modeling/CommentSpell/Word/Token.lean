import CommentSpell.Text.Blank

/-!
# Tokens of a comment

A comment is cut into tokens at runs of commas and white space.  Periods are deleted from the
tokens, so the end of a sentence leaves no trace and a dotted word stays in one piece.  A token
that has nothing else in it is dropped.
-/

namespace CommentSpell

/-- `isSeparator c` iff `c` parts tokens: a comma or white space. -/
def isSeparator (c : Char) : Bool :=
  c == ',' || Text.isBlank c

/-- `tokenize text` are the tokens of `text`, in their order. -/
def tokenize (text : Text) : List Text :=
  ((Text.pieces isSeparator text).map (·.filter (· ≠ '.'))).filter (· ≠ [])

/-- `cleanWord token` are the ASCII letters of `token`; this is the form in which words are looked up
and ignored. -/
def cleanWord (token : Text) : Text :=
  token.filter Char.isAlpha

end CommentSpell
