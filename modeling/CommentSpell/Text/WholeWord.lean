import CommentSpell.Text.Segment

/-!
# Whole words

Replacing a word where it stands as a whole word: a word boundary, in the ASCII sense, lies before
its first and behind its last character.  The word may be any text.  If it is empty it stands at
every word boundary, and what replaces it is put in there.
-/

namespace CommentSpell.Text

/-- `wordSite word` recognises the places where `word` stands between word boundaries. -/
def wordSite (word : Text) : Site Unit := fun before rest =>
  match after? word rest with
  | some following =>
    if isBoundary before word.head? && isBoundary word.getLast? following.head? then
      some ((), word.length)
    else none
  | none => none

/-- `insertAtBoundaries insertion before text` is `text`, which stands behind `before`, with
`insertion` put in at every word boundary. -/
def insertAtBoundaries (insertion : Text) : (before : Option Char) → Text → Text
  | before, [] => if isBoundary before none then insertion else []
  | before, c :: rest =>
    (if isBoundary before (some c) then insertion else [])
      ++ c :: insertAtBoundaries insertion (some c) rest

/-- `replaceWholeWord word replacement text` is `text` with every whole-word occurrence of `word`
replaced by `replacement`, from left to right. -/
def replaceWholeWord (word replacement text : Text) : Text :=
  if word.isEmpty then insertAtBoundaries replacement none text
  else substitute (wordSite word) (fun _ _ => replacement) text

end CommentSpell.Text
