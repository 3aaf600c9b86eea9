/-!
# Texts

A `Text` is the list of its characters, so lengths and offsets count characters and every function
on texts is a recursion on that list.  The order of texts is the order of lists: at the first place
where two texts differ the smaller code point decides, and a text that is the beginning of another
comes before it.

This file has the parts that know nothing of comments or spelling: ASCII classes, cutting a text
at separators, and joining pieces again.
-/

namespace CommentSpell

/-- The characters of a text, in order. -/
abbrev Text := List Char

namespace Text

/-! ### Order and membership -/

-- These are the instances for lists, named so that no other order of lists takes their place.
instance : LE Text :=
  @List.instLE Char Char.instLT

instance (a b : Text) : Decidable (a ≤ b) :=
  @List.decidableLE Char instDecidableEqChar Char.instLT Char.instDecidableLt a b

instance (text : Text) (texts : List Text) : Decidable (text ∈ texts) :=
  List.instDecidableMemOfLawfulBEq text texts

/-! ### ASCII classes -/

/-- `isAsciiWord c` iff `c` belongs to an ASCII word: a letter, a digit or `_`. -/
def isAsciiWord (c : Char) : Bool :=
  c.isAlphanum || c == '_'

/-- `isAsciiBlank c` iff `c` is ASCII white space: the space, or a control from tab to carriage
return. -/
def isAsciiBlank (c : Char) : Bool :=
  c == ' ' || (9 ≤ c.toNat && c.toNat ≤ 13)

/-- `isAsciiPunctuation c` iff `c` is one of the thirty-two ASCII punctuation characters. -/
def isAsciiPunctuation (c : Char) : Bool :=
  33 ≤ c.toNat && c.toNat ≤ 126 && !c.isAlphanum

/-- `isLineBreak c` iff `c` is `'\r'` or `'\n'`. -/
def isLineBreak (c : Char) : Bool :=
  c == '\r' || c == '\n'

/-! ### Word boundaries -/

/-- `isWordAt c?` iff `c?` is a character and belongs to an ASCII word; `none` is the edge of the
text. -/
def isWordAt : Option Char → Bool
  | some c => isAsciiWord c
  | none => false

/-- `isBoundary before after` iff a word boundary lies between these neighbours: exactly one of them
belongs to an ASCII word.  The edge of the text is a neighbour that does not. -/
def isBoundary (before after : Option Char) : Bool :=
  isWordAt before != isWordAt after

/-! ### Cutting and joining -/

/-- `pieces isSeparator text` are the pieces of `text` between separators.  There is one piece more
than there are separators, and pieces may be empty. -/
def pieces (isSeparator : Char → Bool) : Text → List Text
  | [] => [[]]
  | c :: rest =>
    if isSeparator c then [] :: pieces isSeparator rest
    else (pieces isSeparator rest).modifyHead (c :: ·)

/-- `trimBy isBlank text` is `text` without the characters at its ends for which `isBlank` holds. -/
def trimBy (isBlank : Char → Bool) (text : Text) : Text :=
  ((text.dropWhile isBlank).reverse.dropWhile isBlank).reverse

/-- `join separator texts` are the `texts` one after the other, with `separator` between each two. -/
def join (separator : Text) : List Text → Text
  | [] => []
  | [text] => text
  | text :: next :: rest => text ++ separator ++ join separator (next :: rest)

/-- `commaItems text` are the items of `text` that are parted by a comma and a space, cut at the
leftmost such separator first. -/
def commaItems : Text → List Text
  | [] => [[]]
  | ',' :: ' ' :: rest => [] :: commaItems rest
  | c :: rest => (commaItems rest).modifyHead (c :: ·)

/-- `after? start text = some rest` iff `text = start ++ rest`. -/
def after? : (start text : Text) → Option Text
  | [], text => some text
  | _ :: _, [] => none
  | a :: start, c :: text => if a = c then after? start text else none

/-- `startsWith text start` iff `text` begins with `start`. -/
def startsWith (text start : Text) : Bool :=
  (after? start text).isSome

/-- `contains part text` iff `part` is a run of neighbouring characters of `text`. -/
def contains (part : Text) : Text → Bool
  | [] => part.isEmpty
  | c :: rest => startsWith (c :: rest) part || contains part rest

/-- `endsWith text last` iff `last` is the last character of `text`. -/
def endsWith (text : Text) (last : Char) : Bool :=
  text.getLast? == some last

end Text

end CommentSpell
