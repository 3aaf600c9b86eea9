import CommentSpell.Text.Quoted

/-!
# Values of any form

Where a number or the name of an enumeration is asked for, something else may be given: nothing, a
truth value, a list, or a record of named values.  A `Literal` is such a value.  All that the library
does with one that is not what was asked for is to show it in the message of its refusal.
-/

namespace CommentSpell

mutual
/-- A value as it is given from outside. -/
inductive Literal where
  | absent
  | bool (value : Bool)
  | int (value : Int)
  | text (value : Text)
  | list (items : LiteralList)
  | record (fields : LiteralRecord)
deriving DecidableEq
/-- The items of a list, in order. -/
inductive LiteralList where
  | nil
  | cons (item : Literal) (rest : LiteralList)
deriving DecidableEq
/-- The fields of a record, in order. -/
inductive LiteralRecord where
  | nil
  | cons (name : Text) (value : Literal) (rest : LiteralRecord)
deriving DecidableEq
end

namespace Literal

/-- `value.text?` is the text that `value` is, if it is one. -/
def text? : Literal → Option Text
  | text value => some value
  | _ => none

/-- `value.int?` is the number that `value` is or stands for; the truth values stand for zero and one. -/
def int? : Literal → Option Int
  | int value => some value
  | bool value => some (if value then 1 else 0)
  | _ => none

mutual
/-- `value.shown` is `value` as messages show it, with texts between quotes. -/
def shown : Literal → Text
  | absent => "None".toList
  | bool true => "True".toList
  | bool false => "False".toList
  | int value => (toString value).toList
  | text value => Text.quoted value
  | list items => '[' :: Text.join [',', ' '] (shownItems items) ++ [']']
  | record fields => '\x7b' :: Text.join [',', ' '] (shownFields fields) ++ ['\x7d']
/-- `shownItems items` are the `items` of a list as messages show them. -/
def shownItems : LiteralList → List Text
  | .nil => []
  | .cons item rest => shown item :: shownItems rest
/-- `shownFields fields` are the `fields` of a record as messages show them, each with its name. -/
def shownFields : LiteralRecord → List Text
  | .nil => []
  | .cons name value rest => (Text.quoted name ++ ':' :: ' ' :: shown value) :: shownFields rest
end

/-- `value.plain` is `value` as messages show it, but a text stands for itself. -/
def plain : Literal → Text
  | text value => value
  | value => shown value

end Literal

end CommentSpell
