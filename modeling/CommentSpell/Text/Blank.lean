import CommentSpell.Text.Basic
import CommentSpell.Text.CodeRanges

/-!
# White space

The twenty-nine characters that count as white space when a text is cut into words or trimmed: the
white space of the Unicode standard and the four separator controls from U+001C to U+001F.
-/

namespace CommentSpell.Text

/-- The code points of white space. -/
def blankRanges : CodeRanges :=
  [(0x9, 0xD), (0x1C, 0x20), (0x85, 0x85), (0xA0, 0xA0), (0x1680, 0x1680), (0x2000, 0x200A),
   (0x2028, 0x2029), (0x202F, 0x202F), (0x205F, 0x205F), (0x3000, 0x3000)]

/-- `isBlank c` iff `c` is white space, by `blankRanges`. -/
def isBlank (c : Char) : Bool :=
  blankRanges.covers c.toNat

/-- `trim text` is `text` without white space at its ends. -/
def trim (text : Text) : Text :=
  trimBy isBlank text

/-- `fields text` are the non-empty runs of characters of `text` between white space. -/
def fields (text : Text) : List Text :=
  (pieces isBlank text).filter (· ≠ [])

end CommentSpell.Text
