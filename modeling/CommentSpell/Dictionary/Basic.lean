import CommentSpell.Text.Basic

/-!
# Dictionaries

All that judging words needs from a dictionary: whether it accepts a word, and its suggestions for a
word, the best one first.
-/

namespace CommentSpell

/-- A judge of words. -/
structure Dictionary where
  /-- `check word` iff the dictionary accepts `word`. -/
  check : Text → Bool
  /-- `suggest word` is what to write in place of `word`, best first; perhaps nothing. -/
  suggest : Text → List Text

end CommentSpell
