import CommentSpell.Literal

/-!
# Values refused at the border

Offsets and names that come from outside are checked once, where they enter; inside the library
they are natural numbers, ordered spans and enumerations.  `InvalidValue` lists the causes for which
such a value is refused.
-/

namespace CommentSpell

/-- Why a value from outside was refused. -/
inductive InvalidValue where
  /-- The offset `value` of `field` is negative. -/
  | negative (field : String) (value : Int)
  /-- The span from `start` to `stop` ends before it starts. -/
  | reversed (startField stopField : String) (start stop : Int)
  /-- `value` is no name of `enumeration`. -/
  | unknownName (enumeration : String) (value : Literal)
  /-- There is no text to check. -/
  | missingText
deriving DecidableEq

namespace InvalidValue

/-- `invalid.message` is the wording of the refusal `invalid`. -/
def message : InvalidValue → String
  | negative field value => s!"{field} must be >= 0, got {value}"
  | reversed startField stopField start stop =>
    s!"{stopField} ({stop}) must be >= {startField} ({start})"
  | unknownName enumeration value =>
    let shown := String.ofList value.shown
    s!"{shown} is not a valid {enumeration}"
  | missingText => "Input text cannot be None"

end InvalidValue

end CommentSpell
