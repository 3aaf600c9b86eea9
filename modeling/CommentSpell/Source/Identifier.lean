import CommentSpell.Source.Comment

/-!
# Identifiers of the code

Comments mention the code around them.  The identifiers collected here, from the code without its
comments, are the mentions that are not to be judged as words: names introduced by one of five
keywords, and whole calls, written as `name(arguments)`.

Names are ASCII: a letter, an underscore or a dollar sign, and then also digits.  A site must begin
at a word boundary, so a name that begins with a dollar sign needs a word character before it.
Call arguments reach to the first closing parenthesis; nested calls are not taken apart.
-/

namespace CommentSpell

namespace Identifier

/-! ### Names and keywords -/

/-- `startsName c` iff `c` may begin a name: an ASCII letter, `_` or `$`. -/
def startsName (c : Char) : Bool :=
  c.isAlpha || c == '_' || c == '$'

/-- `continuesName c` iff `c` may continue a name: a character of an ASCII word, or `$`. -/
def continuesName (c : Char) : Bool :=
  Text.isAsciiWord c || c == '$'

/-- `name? text` is the longest name at the start of `text`, and what follows it. -/
def name? : Text → Option (Text × Text)
  | [] => none
  | c :: rest =>
    if startsName c then
      some (c :: rest.takeWhile continuesName, rest.dropWhile continuesName)
    else none

/-- The keywords that introduce a name. -/
def keywords : List Text :=
  ["function", "let", "const", "var", "class"].map String.toList

/-! ### Declarations -/

/-- `declaration? text` reads a keyword, white space and a name at the start of `text`: it is the
name, and the length of the whole. -/
def declaration? (text : Text) : Option (Text × Nat) := do
  let (keyword, following) ←
    keywords.findSome? fun keyword => (Text.after? keyword text).map (keyword, ·)
  let blanks := following.takeWhile Text.isAsciiBlank
  if blanks.isEmpty then none
  else
    let (name, _) ← name? (following.dropWhile Text.isAsciiBlank)
    some (name, keyword.length + blanks.length + name.length)

/-- The `Site` of declarations: the word boundaries where `declaration?` reads one. -/
def declarationSite : Site Text := fun before rest =>
  if Text.isBoundary before rest.head? then declaration? rest else none

/-- `declarations code` are the names that `code` introduces, in their order. -/
def declarations (code : Text) : List Text :=
  (Segment.values (scan declarationSite code)).eraseDups

/-! ### Calls -/

/-- `call name arguments` is `name(arguments)`. -/
def call (name arguments : Text) : Text :=
  name ++ '(' :: arguments ++ [')']

/-- `arguments? text` are the arguments at the start of `text`, which follows an opening parenthesis,
if they are closed. -/
def arguments? : Text → Option Text
  | [] => none
  | c :: rest => if c = ')' then some [] else (arguments? rest).map (c :: ·)

/-- `call? text` reads a name, perhaps white space, and arguments in parentheses at the start of
`text`: it is the call without that white space, and the length of the whole. -/
def call? (text : Text) : Option (Text × Nat) := do
  let (name, following) ← name? text
  let blanks := following.takeWhile Text.isAsciiBlank
  match following.dropWhile Text.isAsciiBlank with
  | '(' :: rest =>
    let arguments ← arguments? rest
    some (call name arguments, name.length + blanks.length + arguments.length + 2)
  | _ => none

/-- The `Site` of calls: the word boundaries where `call?` reads one. -/
def callSite : Site Text := fun before rest =>
  if Text.isBoundary before rest.head? then call? rest else none

/-- `calls code` are the calls of `code`, in their order. -/
def calls (code : Text) : List Text :=
  (Segment.values (scan callSite code)).eraseDups

/-- `isCall identifier` iff `identifier` ends with `)` and has a `(`. -/
def isCall (identifier : Text) : Bool :=
  Text.endsWith identifier ')' && identifier.elem '('

/-! ### All identifiers -/

/-- `extract source` are the identifiers of `source`, found in `Comment.strip source`. -/
def extract (source : Text) : List Text :=
  let code := Comment.strip source
  (declarations code ++ calls code).eraseDups

end Identifier

end CommentSpell
