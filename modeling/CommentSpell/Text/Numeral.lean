import CommentSpell.Text.Blank
import CommentSpell.Text.Digit

/-!
# Numerals

Which texts read as a number, so that no spelling is looked up for them.  A numeral has an optional
sign and then either one of the words `inf`, `infinity` and `nan` in any case, or decimal digits
with at most one point among them and an optional exponent.  Digits may be of any script, single
underscores may stand between digits, and white space around the numeral is ignored.
-/

namespace CommentSpell.Text

/-- `numeralChar? c` is the ASCII character that `c` stands for in a numeral, if it can stand there. -/
def numeralChar? (c : Char) : Option Char :=
  if c.toNat < 127 then some c
  else if isBlank c then some ' '
  else (decimalValue? c).map fun value => Char.ofNat (48 + value)

/-- `dropUnderscores? afterDigit text` is `text` without its underscores, provided that each stands
between two digits; `afterDigit` says whether a digit stands before `text`. -/
def dropUnderscores? : (afterDigit : Bool) → Text → Option Text
  | _, [] => some []
  | afterDigit, '_' :: c :: rest =>
    if afterDigit && c.isDigit then (dropUnderscores? true rest).map (c :: ·) else none
  | _, c :: rest =>
    if c = '_' then none else (dropUnderscores? c.isDigit rest).map (c :: ·)

/-- `dropSign text` is `text` without a sign at its start. -/
def dropSign : Text → Text
  | '+' :: rest => rest
  | '-' :: rest => rest
  | text => text

/-- `isAsciiDigits text` iff `text` has a digit and nothing but ASCII digits. -/
def isAsciiDigits (text : Text) : Bool :=
  !text.isEmpty && text.all Char.isDigit

/-- `isExponent text` iff `text` is empty or the exponent of a numeral: `e` or `E`, perhaps a sign,
and digits. -/
def isExponent : Text → Bool
  | [] => true
  | c :: rest => (c = 'e' || c = 'E') && isAsciiDigits (dropSign rest)

/-- `isDecimal text` iff `text` is digits with at most one point, at least one digit, and perhaps an
exponent. -/
def isDecimal (text : Text) : Bool :=
  let whole := text.takeWhile Char.isDigit
  match text.dropWhile Char.isDigit with
  | '.' :: rest =>
    !(whole.isEmpty && (rest.takeWhile Char.isDigit).isEmpty)
      && isExponent (rest.dropWhile Char.isDigit)
  | rest => !whole.isEmpty && isExponent rest

/-- `isNumberWord text` iff `text` is, in any case, one of the words for values without digits. -/
def isNumberWord (text : Text) : Bool :=
  let small := text.map Char.toLower
  small == "inf".toList || small == "infinity".toList || small == "nan".toList

/-- `isNumeral text` iff `text` reads as a number. -/
def isNumeral (text : Text) : Bool :=
  match text.mapM numeralChar? with
  | none => false
  | some plain =>
    match dropUnderscores? false (trimBy isAsciiBlank plain) with
    | none => false
    | some body => isNumberWord (dropSign body) || isDecimal (dropSign body)

end CommentSpell.Text
