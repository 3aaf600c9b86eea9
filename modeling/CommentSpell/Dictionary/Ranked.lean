import CommentSpell.Dictionary.Basic
import CommentSpell.Dictionary.WordTable
import CommentSpell.Sorting

/-!
# Ranked dictionaries

A `RankedDictionary` accepts the words of a word table, whatever their case, and suggests the
candidates of its search, the most frequent first and equally frequent ones in the order of texts.  A
case variant of the word asked for is no suggestion.
-/

namespace CommentSpell

/-- `capped limit? l` are the first `limit?` elements of `l`, or all but the last ones if the limit is
negative, or all if there is no limit. -/
def capped {α : Type} (limit? : Option Int) (l : List α) : List α :=
  match limit? with
  | none => l
  | some limit => if limit < 0 then l.take (l.length - limit.natAbs) else l.take limit.toNat

/-- `table.ranksBefore a b` iff `b` is not suggested before `a`: the more frequent comes first, then
the smaller text. -/
def WordTable.ranksBefore (table : WordTable) (a b : Text) : Bool :=
  table.frequency b < table.frequency a || (table.frequency a = table.frequency b && a ≤ b)

/-- `table.rank limit? word candidates` are the `candidates` that are not case variants of `word`, in
order of suggestion and then capped. -/
def WordTable.rank (table : WordTable) (limit? : Option Int) (word : Text)
    (candidates : List Text) : List Text :=
  capped limit? (sortBy table.ranksBefore
    (candidates.filter fun candidate => Text.lower candidate != Text.lower word))

/-- A dictionary that searches `table` within `reach`, with the text of its affix file and the
`locale` of its words. -/
structure RankedDictionary where
  table : WordTable
  reach : Reach
  locale : Option Text
  affixText : Text := []
  maxSuggestions : Option Int := none
deriving DecidableEq

namespace RankedDictionary

/-- `dictionary.check word` iff `dictionary` accepts `word`. -/
def check (dictionary : RankedDictionary) (word : Text) : Bool :=
  dictionary.table.contains word

/-- `dictionary.suggest word` are the suggestions for `word`, best first. -/
def suggest (dictionary : RankedDictionary) (word : Text) : List Text :=
  dictionary.table.rank dictionary.maxSuggestions word
    (dictionary.table.candidates dictionary.reach word)

/-- `dictionary.addWords words` is `dictionary` with `words` loaded too. -/
def addWords (dictionary : RankedDictionary) (words : List Text) : RankedDictionary :=
  { dictionary with table := dictionary.table.load words }

/-- `dictionary.toDictionary` is `dictionary` as a judge of words. -/
def toDictionary (dictionary : RankedDictionary) : Dictionary where
  check := dictionary.check
  suggest := dictionary.suggest

end RankedDictionary

end CommentSpell
