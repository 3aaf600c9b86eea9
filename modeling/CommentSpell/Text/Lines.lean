import CommentSpell.Text.Basic

/-!
# Lines of a list

The lines of a word list end at any of ten separators: line feed, carriage return, the two together,
the vertical tab, the form feed, the three separator controls from U+001C to U+001E, the next-line
control, and the line and paragraph separators of Unicode.  A separator at the very end opens no
further line.
-/

namespace CommentSpell.Text

/-- `isLineSeparator c` iff `c` ends a line of a list. -/
def isLineSeparator (c : Char) : Bool :=
  (0x0A ≤ c.toNat && c.toNat ≤ 0x0D) || (0x1C ≤ c.toNat && c.toNat ≤ 0x1E) || c.toNat == 0x85
    || c.toNat == 0x2028 || c.toNat == 0x2029

/-- `consLine c lines` is `lines` with `c` in front of the first line; it opens a line if there is
none. -/
def consLine (c : Char) : List Text → List Text
  | [] => [[c]]
  | line :: lines => (c :: line) :: lines

/-- `lines text` are the lines of `text`, without their separators. -/
def lines : Text → List Text
  | [] => []
  | '\r' :: '\n' :: rest => [] :: lines rest
  | c :: rest => if isLineSeparator c then [] :: lines rest else consLine c (lines rest)

/-- `unifyLineBreaks text` is `text` with each of its line breaks, be it a carriage return, a line
feed or both, written as one line feed. -/
def unifyLineBreaks : Text → Text
  | [] => []
  | '\r' :: '\n' :: rest => '\n' :: unifyLineBreaks rest
  | c :: rest => (if c = '\r' then '\n' else c) :: unifyLineBreaks rest

end CommentSpell.Text
