import CommentSpell.Text.Blank
import CommentSpell.Text.Digit
import CommentSpell.Text.Lines

/-!
# Word lists

A word list holds one entry on a line: a word, perhaps a slash and flags, perhaps white space and
remarks.  The first line may give the number of entries and is then skipped.  Blank lines are
skipped, and so are lines that begin with a number sign.
-/

namespace CommentSpell

namespace WordList

/-- `word? line` is the word of `line`, if `line` is an entry: what stands before the first white
space and before the first slash. -/
def word? (line : Text) : Option Text :=
  match Text.trim line with
  | [] => none
  | c :: rest =>
    if c = '#' then none
    else
      let word := ((c :: rest).takeWhile (!Text.isBlank ·)).takeWhile (· ≠ '/')
      if word.isEmpty then none else some word

/-- `dropCount lines` are the `lines` without the one that gives the number of entries. -/
def dropCount : List Text → List Text
  | [] => []
  | line :: lines => if Text.isDigits (Text.trim line) then lines else line :: lines

/-- `parse content` are the words of the list `content`, in their order and with repetitions. -/
def parse (content : Text) : List Text :=
  (dropCount (Text.lines content)).filterMap word?

end WordList

end CommentSpell
