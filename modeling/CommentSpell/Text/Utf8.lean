import CommentSpell.Text.Quoted

/-!
# Strict UTF-8

Bytes are read as UTF-8 and refused at the first sequence that is not well formed: a byte that
cannot begin a sequence, a byte that cannot continue the sequence begun, or the end of the bytes
inside a sequence.  The range allowed for the second byte depends on the first one, which rules out
overlong forms, surrogates and code points beyond the last.  A failure names the first byte of the
sequence and how far the sequence was well formed.
-/

namespace CommentSpell.Text

/-- Why a sequence of bytes was refused. -/
inductive Utf8Reason where
  | invalidStart
  | invalidContinuation
  | unexpectedEnd
deriving DecidableEq

/-- Where and why a sequence was refused: its byte `first` at `position`, the `length` of what was
read of it before the failure, `first` included, and the `reason`. -/
structure Utf8Error where
  first : UInt8
  position : Nat
  length : Nat
  reason : Utf8Reason
deriving DecidableEq

/-- A sequence that is still open: it began with `first` at `position`, and `length` bytes of it were
read into `bits`; `missing` bytes are to come, the next of them from `low` to `high`. -/
structure OpenSequence where
  first : UInt8
  position : Nat
  length : Nat
  missing : Nat
  low : UInt8
  high : UInt8
  bits : Nat

/-- `openSequence? position b` is the sequence that the byte `b` beyond ASCII opens at `position`. -/
def openSequence? (position : Nat) (b : UInt8) : Option OpenSequence :=
  let opened (missing : Nat) (low high : UInt8) : Option OpenSequence :=
    some ⟨b, position, 1, missing, low, high, b.toNat % 1 <<< (6 - missing)⟩
  if b < 0xC2 then none
  else if b < 0xE0 then opened 1 0x80 0xBF
  else if b = 0xE0 then opened 2 0xA0 0xBF
  else if b = 0xED then opened 2 0x80 0x9F
  else if b < 0xF0 then opened 2 0x80 0xBF
  else if b = 0xF0 then opened 3 0x90 0xBF
  else if b < 0xF4 then opened 3 0x80 0xBF
  else if b = 0xF4 then opened 3 0x80 0x8F
  else none

/-- `decodeFrom position open? bytes` reads `bytes`, which begin at `position`, with the sequence
`open?` that is still open there. -/
def decodeFrom (position : Nat) : Option OpenSequence → List UInt8 → Except Utf8Error Text
  | none, [] => .ok []
  | some s, [] => .error ⟨s.first, s.position, s.length, .unexpectedEnd⟩
  | none, b :: rest =>
    if b < 0x80 then (decodeFrom (position + 1) none rest).map (Char.ofNat b.toNat :: ·)
    else
      match openSequence? position b with
      | some s => decodeFrom (position + 1) (some s) rest
      | none => .error ⟨b, position, 1, .invalidStart⟩
  | some s, b :: rest =>
    if s.low ≤ b && b ≤ s.high then
      let bits := s.bits * 64 + b.toNat % 64
      if s.missing ≤ 1 then (decodeFrom (position + 1) none rest).map (Char.ofNat bits :: ·)
      else
        decodeFrom (position + 1)
          (some { s with
            length := s.length + 1, missing := s.missing - 1, low := 0x80, high := 0xBF, bits })
          rest
    else .error ⟨s.first, s.position, s.length, .invalidContinuation⟩

/-- `decodeUtf8 bytes` is the text that `bytes` encode. -/
def decodeUtf8 (bytes : List UInt8) : Except Utf8Error Text :=
  decodeFrom 0 none bytes

namespace Utf8Reason

/-- `reason.message` is the wording of `reason`. -/
def message : Utf8Reason → String
  | invalidStart => "invalid start byte"
  | invalidContinuation => "invalid continuation byte"
  | unexpectedEnd => "unexpected end of data"

end Utf8Reason

namespace Utf8Error

/-- `e.message` is the wording of the failure `e`: a sequence of one byte is named by that byte, a
longer one by the positions of its first and its last byte. -/
def message (e : Utf8Error) : String :=
  let reason := e.reason.message
  let start := e.position
  if e.length = 1 then
    let byte := String.ofList (hexDigits 2 e.first.toNat)
    s!"'utf-8' codec can't decode byte 0x{byte} in position {start}: {reason}"
  else
    let last := e.position + e.length - 1
    s!"'utf-8' codec can't decode bytes in position {start}-{last}: {reason}"

end Utf8Error

end CommentSpell.Text
