import CommentSpell.InvalidValue

/-!
# Spans

A `Span` is a half-open range of offsets into a text.
-/

namespace CommentSpell

/-- The offsets from `start` up to, and not including, `stop`. -/
@[ext] structure Span where
  start : Nat
  stop : Nat
  start_le_stop : start ≤ stop := by omega
deriving DecidableEq

namespace Span

/-- `span.length` is the number of offsets in `span`. -/
def length (span : Span) : Nat :=
  span.stop - span.start

/-- `ofLength start length` is the span of `length` offsets from `start` on. -/
def ofLength (start length : Nat) : Span where
  start := start
  stop := start + length

/-- `a.le b` iff `a` does not come after `b`: the earlier start comes first, and of two spans with one
start the shorter. -/
def le (a b : Span) : Bool :=
  a.start < b.start || (a.start = b.start && a.stop ≤ b.stop)

/-- `ofInts startField stopField start stop` is the span from `start` to `stop`, or the reason why
there is none, which names the two by `startField` and `stopField`. -/
def ofInts (startField stopField : String) (start stop : Int) : Except InvalidValue Span :=
  if start < 0 then .error (.negative startField start)
  else if h : stop < start then .error (.reversed startField stopField start stop)
  else .ok { start := start.toNat, stop := stop.toNat }

/-- `span.slice text` are the characters of `text` that lie in `span`. -/
def slice (span : Span) (text : Text) : Text :=
  (text.drop span.start).take span.length

end Span

end CommentSpell
