/-!
# Ranges of code points

Properties of characters beyond ASCII come as tables: closed ranges of code points, in ascending
order and apart from each other, as assigned in version 14.0 of the Unicode standard.  Looking a
code point up stops at the first range that lies above it, so characters of small code point are
found quickly.
-/

namespace CommentSpell

/-- Closed ranges `(first, last)` of code points, ascending and apart. -/
abbrev CodeRanges := List (Nat × Nat)

namespace CodeRanges

/-- `ranges.covers n` iff some range of `ranges` holds the code point `n`. -/
def covers : CodeRanges → Nat → Bool
  | [], _ => false
  | (first, last) :: ranges, n =>
    if n < first then false else n ≤ last || covers ranges n

end CodeRanges

end CommentSpell
