import CommentSpell.Edit.Span
import CommentSpell.Sorting

/-!
# Edits

A `TextEdit` replaces a span of a text.  Edits are applied in batches: all spans refer to the text as
it is before the batch, and the batch is refused as a whole if an edit reaches beyond the end of the
text or overlaps an edit before it in the order of spans.  Insertions at one offset are made in the
order in which they are given.
-/

namespace CommentSpell

/-- An edit that puts `newText` in place of the characters of `span`. -/
structure TextEdit where
  span : Span
  newText : Text
deriving DecidableEq

/-- Why a batch of edits was refused: an edit at `span` ends outside a text of `length`, or overlaps
an earlier one. -/
inductive EditConflict where
  | outside (span : Span) (length : Nat)
  | overlap (span : Span)
deriving DecidableEq

namespace EditConflict

/-- `conflict.message` is the wording of the refusal for `conflict`. -/
def message : EditConflict → String
  | outside span length => s!"Edit [{span.start}, {span.stop}) is outside text of length {length}"
  | overlap span => s!"Edit [{span.start}, {span.stop}) overlaps a previous edit"

end EditConflict

namespace TextEdit

/-- `ofInts start stop newText` is the edit of the characters from `start` to `stop`, or the reason
why there is none. -/
def ofInts (start stop : Int) (newText : Text) : Except InvalidValue TextEdit :=
  (Span.ofInts "start" "end" start stop).map fun span => ⟨span, newText⟩

/-- `inOrder edits` are `edits` in the order `Span.le` of their spans; edits of one span keep their
order. -/
def inOrder (edits : List TextEdit) : List TextEdit :=
  sortBy (fun a b => a.span.le b.span) edits

/-- `conflict? length covered edits` is the first conflict of `edits`, which are in order, for a text
of `length` characters of which those before `covered` are taken. -/
def conflict? (length : Nat) : (covered : Nat) → List TextEdit → Option EditConflict
  | _, [] => none
  | covered, edit :: edits =>
    if length < edit.span.stop then some (.outside edit.span length)
    else if edit.span.start < covered then some (.overlap edit.span)
    else conflict? length edit.span.stop edits

/-- `rebuild cursor rest edits` is `rest`, the part of a text from offset `cursor` on, with `edits`,
which are in order, applied to it. -/
def rebuild : (cursor : Nat) → (rest : Text) → List TextEdit → Text
  | _, rest, [] => rest
  | cursor, rest, edit :: edits =>
    rest.take (edit.span.start - cursor) ++ edit.newText
      ++ rebuild edit.span.stop (rest.drop (edit.span.stop - cursor)) edits

/-- `applyAll edits text` is `text` with the batch `edits` applied, or the conflict for which it is
refused. -/
def applyAll (edits : List TextEdit) (text : Text) : Except EditConflict Text :=
  let ordered := inOrder edits
  match conflict? text.length 0 ordered with
  | some conflict => .error conflict
  | none => .ok (rebuild 0 text ordered)

end TextEdit

end CommentSpell
