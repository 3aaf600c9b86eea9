import CommentSpell.Text.Blank
import CommentSpell.Text.Lowercase
import CommentSpell.Text.Numeral

/-!
# Word tables and the search for similar words

A `WordTable` counts how often each word was loaded; words are kept in lower case.  Similar words are
found by edits of one place: a character is left out, two neighbours change places, a character is
replaced, or a character is put in.  Replacements and insertions use the letters of the table only,
so a word of the table is an edit of another word exactly if `isOneEdit` holds of the two.

Some texts are no candidates for a spelling: a single punctuation character, numerals, and whatever
is longer by more than three characters than the longest word of the table.
-/

namespace CommentSpell

/-- How many edits lead from a word to what is suggested for it. -/
inductive Reach where
  | one
  | two
deriving DecidableEq

namespace Reach

/-- `ofInt distance` is the reach of `distance` edits: one for 1, and two for every other number. -/
def ofInt (distance : Int) : Reach :=
  if distance = 1 then one else two

/-- `reach.toNat` is the number of edits. -/
def toNat : Reach → Nat
  | one => 1
  | two => 2

end Reach

/-! ### Edits of one place -/

/-- `deletions text` are the texts that leave out one character of `text`. -/
def deletions : Text → List Text
  | [] => []
  | c :: rest => rest :: (deletions rest).map (c :: ·)

/-- `transpositions text` are the texts that exchange two neighbouring characters of `text`. -/
def transpositions : Text → List Text
  | c :: d :: rest => (d :: c :: rest) :: (transpositions (d :: rest)).map (c :: ·)
  | _ => []

/-- `replacements letters text` are the texts that replace one character of `text` by one of
`letters`. -/
def replacements (letters : List Char) : Text → List Text
  | [] => []
  | c :: rest => letters.map (· :: rest) ++ (replacements letters rest).map (c :: ·)

/-- `insertions letters text` are the texts that put one of `letters` into `text`. -/
def insertions (letters : List Char) : Text → List Text
  | [] => letters.map ([·])
  | c :: rest => letters.map (· :: c :: rest) ++ (insertions letters rest).map (c :: ·)

/-- `oneEdits letters text` are the texts that one edit makes of `text`. -/
def oneEdits (letters : List Char) (text : Text) : List Text :=
  deletions text ++ transpositions text ++ replacements letters text ++ insertions letters text

/-- `startsTransposed a b` iff exchanging the two neighbours at the start of `a` gives `b`. -/
def startsTransposed : Text → Text → Bool
  | a :: b :: rest, c :: d :: rest' => a == d && b == c && rest == rest'
  | _, _ => false

/-- `isOneEdit a b` iff one edit makes `b` of `a`, with any letters. -/
def isOneEdit : Text → Text → Bool
  | [], [_] => true
  | [_], [] => true
  | a :: rest, b :: rest' =>
    rest == b :: rest' || a :: rest == rest' || rest == rest'
      || startsTransposed (a :: rest) (b :: rest') || (a == b && isOneEdit rest rest')
  | _, _ => false

/-! ### The table -/

/-- A table of `words` in lower case, each as often as it was loaded. -/
structure WordTable where
  words : List Text
deriving DecidableEq

namespace WordTable

instance : EmptyCollection WordTable := ⟨⟨[]⟩⟩

/-- `table.load words` is `table` with `words` loaded in lower case. -/
def load (table : WordTable) (words : List Text) : WordTable :=
  ⟨table.words ++ words.map Text.lower⟩

/-- `table.contains word` iff `word`, in lower case, is in `table`. -/
def contains (table : WordTable) (word : Text) : Bool :=
  Text.lower word ∈ table.words

/-- `table.frequency word` is how often `word`, in lower case, was loaded. -/
def frequency (table : WordTable) (word : Text) : Nat :=
  table.words.count (Text.lower word)

/-- `table.letters` are the characters of the words of `table`. -/
def letters (table : WordTable) : List Char :=
  (table.words.flatMap id).eraseDups

/-- `table.longest` is the length of the longest word of `table`. -/
def longest (table : WordTable) : Nat :=
  table.words.foldl (fun longest word => max longest word.length) 0

/-- `table.maySpell text` iff `text` may be a spelling of a word: not a punctuation character, not
much longer than the words of `table`, and not a number. -/
def maySpell (table : WordTable) (text : Text) : Bool :=
  !(match text with
    | [c] => Text.isAsciiPunctuation c
    | _ => false)
  && text.length ≤ table.longest + 3
  && (Text.lower text ∈ ["nan".toList, "inf".toList, "infinity".toList] || !Text.isNumeral text)

/-- `table.spellings` are the different words of `table` that may be spellings. -/
def spellings (table : WordTable) : List Text :=
  table.words.eraseDups.filter table.maySpell

/-- `table.near text` are the spellings that one edit makes of `text`, which is in lower case. -/
def near (table : WordTable) (text : Text) : List Text :=
  if table.maySpell text then table.spellings.filter (isOneEdit text) else []

/-- `table.far text` are the spellings that two edits make of `text`, which is in lower case; the text
between the two edits may itself be a spelling. -/
def far (table : WordTable) (text : Text) : List Text :=
  if table.maySpell text then
    let between := (oneEdits table.letters text).filter table.maySpell
    table.spellings.filter fun word => between.any (isOneEdit · word)
  else []

/-- `table.candidates reach word` are the candidates for `word`.  A known word, and a text that is no
spelling, has itself as the only candidate; for other words the nearest spellings within `reach` are
taken. -/
def candidates (table : WordTable) (reach : Reach) (word : Text) : List Text :=
  let small := Text.lower word
  if table.contains word && table.maySpell small || !table.maySpell word then [word]
  else
    match table.near small, reach with
    | [], .one => []
    | [], .two => table.far small
    | found, _ => found

end WordTable

end CommentSpell
