import CommentSpell.Edit.Batch
import CommentSpell.Text.WholeWord
import CommentSpell.Word.Verdict

/-!
# Automatic correction

A comment is corrected word by word: for each misspelling that has a suggestion, the letters of the
misspelled token are replaced by the first suggestion wherever they stand as a whole word.  Each
replacement works on the result of the one before it.  A comment that changes gives one edit, of the
whole comment, so no replacement moves the span of another edit.
-/

namespace CommentSpell

namespace Comment

/-- `correctedText misspellings text` is `text` with `misspellings` corrected one after the other:
each `m` with `m.best? = some best` has `m.cleaned` replaced by `best` as a whole word; others change
nothing. -/
def correctedText (misspellings : List Misspelling) (text : Text) : Text :=
  misspellings.foldl
    (fun text m =>
      match m.best? with
      | some best => Text.replaceWholeWord m.cleaned best text
      | none => text)
    text

/-- `comment.span` is the span of `comment` in the source. -/
def span (comment : Comment) : Span :=
  .ofLength comment.start comment.text.length

/-- `comment.correction? misspellings` is the edit that corrects `comment`, if correcting changes it. -/
def correction? (comment : Comment) (misspellings : List Misspelling) : Option TextEdit :=
  let updated := correctedText misspellings comment.text
  if updated = comment.text then none else some ⟨comment.span, updated⟩

end Comment

namespace Judge

/-- `judge.corrections source` are the edits that correct the comments of `source`, in source order. -/
def corrections (judge : Judge) (source : Text) : List TextEdit :=
  (Comment.extract source).filterMap fun comment =>
    comment.correction? (judge.misspellings comment.text)

end Judge

end CommentSpell
