import Mqtt.Failure
import Mqtt.Wire.Bytes
/-! # Writing fields

Field encoders refuse what cannot be written before writing anything. An `Emission` is what an
encoder hands to a writer: the bytes in order and, possibly, a failure after them. A writer that
accepts only a limited number of bytes takes a prefix and fails with `shortWrite` when the
emission goes past its limit.
-/

namespace Mqtt

/-- The largest value of a two-byte length. -/
def maxFieldLength : Nat := 65535

/-- The largest remaining length that four seven-bit groups can hold. -/
def maxRemainingLength : Nat := 268435455

/-- Bytes written, possibly followed by a failure that stopped the writing. -/
structure Emission where
  bytes : Bytes
  failure : Option Failure := none
  deriving DecidableEq, Repr, Inhabited

namespace Emission

/-- An emission of bytes that ends well. -/
def ok (b : Bytes) : Emission := ⟨b, none⟩

/-- A failure before anything was written. -/
def fail (f : Failure) : Emission := ⟨[], some f⟩

/-- What a writer that accepts at most `limit` bytes takes from an emission. -/
def limit (e : Emission) : Option Nat → Emission
  | none => e
  | some n => if n < e.bytes.length then ⟨e.bytes.take n, some (.of .shortWrite)⟩ else e

/-- The result of an emission as a number of bytes written or a failure. -/
def result (e : Emission) : Except Failure Nat :=
  match e.failure with
  | some f => .error f
  | none => .ok e.bytes.length

end Emission

namespace Field

/-- The two bytes of a number. -/
def u16 (v : UInt16) : Bytes := Bytes.ofUInt16 v

/-- Binary data behind its two-byte length; longer data is refused. -/
def binary (b : Bytes) : Except Failure Bytes :=
  if b.length > maxFieldLength then .error (.of .stringTooLong)
  else .ok (Bytes.ofUInt16 b.length.toUInt16 ++ b)

/-- A text field is written as binary data. -/
def text (b : Bytes) : Except Failure Bytes := binary b

/-- The seven-bit groups of a number, least significant first, each but the last with its
high bit set. -/
def lengthGroups (v : Nat) : Bytes :=
  let rec go (fuel v : Nat) : Bytes :=
    match fuel with
    | 0 => []
    | fuel + 1 =>
      if v < 128 then [v.toUInt8]
      else (v % 128 + 128).toUInt8 :: go fuel (v / 128)
  go 5 v

/-- The encoded remaining length, refused above `maxRemainingLength`. -/
def length (v : Nat) : Except Failure Bytes :=
  if v > maxRemainingLength then .error (.of .lengthTooLarge) else .ok (lengthGroups v)

/-- The number of bytes of an encoded remaining length. -/
def lengthSize (v : Nat) : Nat :=
  if v < 128 then 1 else if v < 16384 then 2 else if v < 2097152 then 3 else 4

/-- Encodes a remaining length into a buffer of `cap` bytes; when it does not fit, the buffer
holds the groups that did. -/
def putLength (v cap : Nat) : Emission :=
  if v > maxRemainingLength then .fail (.of .lengthTooLarge)
  else
    let g := lengthGroups v
    if g.length ≤ cap then .ok g else ⟨g.take cap, some (.of .bufferTooShort)⟩

end Field

end Mqtt
