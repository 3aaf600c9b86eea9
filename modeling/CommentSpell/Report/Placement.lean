import CommentSpell.Edit.Correction
import CommentSpell.Report.Diagnostic
import CommentSpell.Report.Hover

/-!
# Placing misspellings

Judging forgets where in a comment a token stood.  `place` finds the tokens again, in the same masked
text, one after the other: each is searched behind the place of the one before it, where it stands as
a whole token, between commas, white space, periods or the edges of the comment.  A token that is not
found is left out, and the search for the next one starts where this one started.
-/

namespace CommentSpell

namespace Placement

/-- `delimits c?` iff a token may end at the neighbour `c?`: a separator, a period, or the edge of the
text. -/
def delimits : Option Char → Bool
  | some c => isSeparator c || c == '.'
  | none => true

/-- `findFrom token cursor before position text` is the offset of the first place, `cursor` or later,
where `token` stands as a whole.  The search has come to offset `position`, where `text` begins behind
`before`. -/
def findFrom (token : Text) (cursor : Nat) : (before : Option Char) → (position : Nat) → Text →
    Option Nat
  | before, position, [] =>
    if token.isEmpty && cursor ≤ position && delimits before then some position else none
  | before, position, c :: rest =>
    if cursor ≤ position && delimits before &&
        (Text.after? token (c :: rest)).any (fun following => delimits following.head?) then
      some position
    else findFrom token cursor (some c) (position + 1) rest

/-- `find? token text cursor` is the offset of the first place of `text`, `cursor` or later, where
`token` stands as a whole. -/
def find? (token text : Text) (cursor : Nat) : Option Nat :=
  findFrom token cursor none 0 text

/-- `locate text cursor misspellings` are the offsets, `cursor` or later, at which the tokens of
`misspellings` are found one after the other, each with its misspelling; those that are not found are
left out. -/
def locate (text : Text) : (cursor : Nat) → List Misspelling → List (Nat × Misspelling)
  | _, [] => []
  | cursor, m :: rest =>
    match find? m.token text cursor with
    | some offset => (offset, m) :: locate text (offset + m.token.length) rest
    | none => locate text cursor rest

end Placement

namespace Comment

/-- `comment.diagnosticAt severity offset m` is the diagnostic of `m`, found at `offset` into
`comment`. -/
def diagnosticAt (comment : Comment) (severity : Severity) (offset : Nat) (m : Misspelling) :
    Diagnostic where
  span := .ofLength (comment.start + offset) m.token.length
  message := Hover.message m.suggestions
  code := m.cleaned
  severity := severity

/-- `comment.place misspellings severity identifiers` are the diagnostics of `misspellings`, as far as
they are found in `comment` with the calls among `identifiers` masked. -/
def place (comment : Comment) (misspellings : List Misspelling) (severity : Severity)
    (identifiers : List Text) : List Diagnostic :=
  (Placement.locate (maskCalls identifiers comment.text) 0 misspellings).map fun (offset, m) =>
    comment.diagnosticAt severity offset m

end Comment

end CommentSpell
