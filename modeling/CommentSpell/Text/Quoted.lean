import CommentSpell.Text.Printable

/-!
# Quoted texts

How a text is shown inside a message: between single quotes, or between double quotes if it has a
single quote and no double one.  The backslash and the quote around the text are written behind a
backslash, line breaks and tabs by their letters, and every other character that is not printable
by its code point in hexadecimal digits: two of them behind `x`, four behind `u`, or eight behind
`U`, the fewest that suffice.
-/

namespace CommentSpell.Text

/-- `hexDigits width n` are the last `width` hexadecimal digits of `n`, in lower case. -/
def hexDigits : (width : Nat) → Nat → Text
  | 0, _ => []
  | width + 1, n =>
    let digit := n % 16
    hexDigits width (n / 16) ++ [Char.ofNat (if digit < 10 then 48 + digit else 87 + digit)]

/-- `escaped quote c` is how `c` is written between two characters `quote`. -/
def escaped (quote c : Char) : Text :=
  if c = '\\' || c = quote then ['\\', c]
  else if c = '\n' then ['\\', 'n']
  else if c = '\r' then ['\\', 'r']
  else if c = '\t' then ['\\', 't']
  else if isPrintable c then [c]
  else if c.toNat < 0x100 then '\\' :: 'x' :: hexDigits 2 c.toNat
  else if c.toNat < 0x10000 then '\\' :: 'u' :: hexDigits 4 c.toNat
  else '\\' :: 'U' :: hexDigits 8 c.toNat

/-- `quoteFor text` is the quote to put around `text`: `"` if `text` has `'` and no `"`, else `'`. -/
def quoteFor (text : Text) : Char :=
  if text.elem '\'' && !text.elem '"' then '"' else '\''

/-- `quoted text` is `text` between quotes, with its characters `escaped`. -/
def quoted (text : Text) : Text :=
  let quote := quoteFor text
  quote :: text.flatMap (escaped quote) ++ [quote]

end CommentSpell.Text
