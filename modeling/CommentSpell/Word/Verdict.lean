import CommentSpell.Dictionary.Basic
import CommentSpell.Word.Mask
import CommentSpell.Word.Token

/-!
# Judging the words of a comment

Each token of a comment, with restated calls masked, gets one `Verdict`.  A token is misspelled only
if nothing excuses it, and the excuses are tried in this order: the token is an identifier of the
code, it has too few letters, its letters are an identifier of the code, its letters are ignored,
the dictionary accepts its letters.

What a scan reports is read off the list of verdicts: the misspellings, in text order and with
repetitions, the tally of verdicts, and the words for which the dictionary was asked.
-/

namespace CommentSpell

/-- A token that nothing excuses: the `token` as it stands in the comment, its letters `cleaned`, and
the `suggestions` of the dictionary for them. -/
structure Misspelling where
  token : Text
  cleaned : Text
  suggestions : List Text
deriving DecidableEq

namespace Misspelling

/-- `m.best?` is the first suggestion of `m`, if there is one. -/
def best? (m : Misspelling) : Option Text :=
  m.suggestions.head?

end Misspelling

/-- The judgement on one token. -/
inductive Verdict where
  /-- The token, or its letters, are an identifier of the code. -/
  | identifier
  /-- The token has too few letters. -/
  | short
  /-- The letters of the token are ignored. -/
  | ignored
  /-- The dictionary accepts the letters `word` of the token. -/
  | accepted (word : Text)
  /-- Nothing excuses the token, which is the misspelling `m`. -/
  | misspelled (m : Misspelling)
deriving DecidableEq

/-- What tokens are judged by: a `dictionary`, the least length of a word, and the words that are
`identifiers` or `ignored`. -/
structure Judge where
  dictionary : Dictionary
  minWordLength : Nat
  identifiers : List Text
  ignored : List Text

/-- How many verdicts of each kind were given.  The counts are integers, so that a tally can also take
verdicts back. -/
structure Tally where
  tokens : Int := 0
  misspelled : Int := 0
  identifier : Int := 0
  short : Int := 0
  ignored : Int := 0
  accepted : Int := 0
deriving DecidableEq

namespace Tally

/-- `a + b` has the verdicts of both tallies together. -/
instance : Add Tally where
  add a b :=
    { tokens := a.tokens + b.tokens
      misspelled := a.misspelled + b.misspelled
      identifier := a.identifier + b.identifier
      short := a.short + b.short
      ignored := a.ignored + b.ignored
      accepted := a.accepted + b.accepted }

/-- `ofVerdict verdict` is the tally of `verdict` alone. -/
def ofVerdict : Verdict → Tally
  | .identifier => { tokens := 1, identifier := 1 }
  | .short => { tokens := 1, short := 1 }
  | .ignored => { tokens := 1, ignored := 1 }
  | .accepted _ => { tokens := 1, accepted := 1 }
  | .misspelled _ => { tokens := 1, misspelled := 1 }

/-- `ofVerdicts verdicts` is the tally of all `verdicts`. -/
def ofVerdicts (verdicts : List Verdict) : Tally :=
  verdicts.foldl (fun tally verdict => tally + ofVerdict verdict) {}

end Tally

namespace Verdict

/-- `verdict.misspelling?` is the misspelling that `verdict` states, if it states one. -/
def misspelling? : Verdict → Option Misspelling
  | misspelled m => some m
  | _ => none

/-- `verdict.checked?` is the word for which the dictionary was asked, if it was. -/
def checked? : Verdict → Option Text
  | accepted word => some word
  | misspelled m => some m.cleaned
  | _ => none

end Verdict

namespace Judge

/-- `judge.verdict token` is the verdict on `token`. -/
def verdict (judge : Judge) (token : Text) : Verdict :=
  let word := cleanWord token
  if token ∈ judge.identifiers then .identifier
  else if word.length < judge.minWordLength then .short
  else if word ∈ judge.identifiers then .identifier
  else if word ∈ judge.ignored then .ignored
  else if judge.dictionary.check word then .accepted word
  else .misspelled ⟨token, word, judge.dictionary.suggest word⟩

/-- `judge.verdicts text` are the verdicts on the tokens of the comment `text`, in text order. -/
def verdicts (judge : Judge) (text : Text) : List Verdict :=
  (tokenize (maskCalls judge.identifiers text)).map judge.verdict

/-- `judge.misspellings text` are the misspellings among `judge.verdicts text`. -/
def misspellings (judge : Judge) (text : Text) : List Misspelling :=
  (judge.verdicts text).filterMap Verdict.misspelling?

/-- `judge.tally text` is the tally of `judge.verdicts text`. -/
def tally (judge : Judge) (text : Text) : Tally :=
  .ofVerdicts (judge.verdicts text)

/-- `judge.checkedWords text` are the words of `text` for which the dictionary is asked, in text
order. -/
def checkedWords (judge : Judge) (text : Text) : List Text :=
  (judge.verdicts text).filterMap Verdict.checked?

end Judge

end CommentSpell
