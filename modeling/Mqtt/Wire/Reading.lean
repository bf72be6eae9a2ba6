import Mqtt.Failure
import Mqtt.Wire.Bytes
/-! # Reading fields from a stream

A `Reading` consumes a prefix of a byte stream and hands back the rest. A reading that fails
still hands back the stream as it left it, so the number of bytes consumed before a failure
is known. A read of `k` bytes from a stream that ends first consumes what there is and fails
with `endOfStream` when there was nothing at all, `unexpectedEnd` otherwise.

`Filling` reads into a value that is filled field by field; the value as filled so far is kept
when a reading fails.
-/

namespace Mqtt

/-- A reading step: the state is the unread part of the stream. -/
abbrev Reading := EStateM Failure Bytes

/-- Reading into a value: the state is the unread stream and the value as filled so far. -/
abbrev Filling (P : Type) := EStateM Failure (Bytes × P)

namespace Reading

/-- The failure of a read that wanted more bytes than the stream `s` holds. -/
def shortfall (s : Bytes) : Failure :=
  if s.isEmpty then .of .endOfStream else .of .unexpectedEnd

/-- Reads exactly `k` bytes. -/
def bytes (k : Nat) : Reading Bytes := fun s =>
  if k ≤ s.length then .ok (s.take k) (s.drop k) else .error (shortfall s) []

/-- Reads one byte. -/
def byte : Reading UInt8 := fun s =>
  match s with
  | b :: r => .ok b r
  | [] => .error (.of .endOfStream) []

/-- Reads a two-byte big-endian number. -/
def u16 : Reading UInt16 := fun s =>
  match s with
  | hi :: lo :: r => .ok (Bytes.toUInt16 hi lo) r
  | r => .error (shortfall r) []

/-- Reads binary data behind its two-byte length. -/
def binary : Reading Bytes := do
  let n ← u16
  if n == 0 then pure [] else bytes n.toNat

/-- Reads a text field: binary data that is well-formed UTF-8 without a NUL byte. -/
def text : Reading Bytes := do
  let b ← binary
  if !Bytes.validUtf8 b then throw (.of .invalidUtf8)
  if b.contains 0 then throw (.of .containsNul)
  pure b

/-- Reads the remaining-length number: seven bits per byte, least significant group first,
the high bit marking that another byte follows, at most `k` bytes. -/
def lengthGroups : Nat → Nat → Nat → Reading Nat
  | 0, _, acc => pure acc
  | k + 1, scale, acc => do
    let b ← byte
    let acc := acc + (b &&& 0x7F).toNat * scale
    if b &&& 0x80 == 0 then pure acc
    else if k == 0 then throw (.of .lengthMalformed)
    else lengthGroups k (scale * 128) acc

/-- Reads a remaining length of at most four bytes. -/
def length : Reading Nat := lengthGroups 4 1 0

end Reading

namespace Filling

variable {P α : Type}

/-- Runs a reading on the stream of a filling. -/
def read (r : Reading α) : Filling P α := fun (s, p) =>
  match r s with
  | .ok a s' => .ok a (s', p)
  | .error e s' => .error e (s', p)

/-- Changes the value being filled. -/
def update (f : P → P) : Filling P Unit := fun (s, p) => .ok () (s, f p)

/-- The value being filled. -/
def current : Filling P P := fun (s, p) => .ok p (s, p)

/-- Runs a filling of one value inside a filling of another, through a view and an update. -/
def focus {Q : Type} (get : P → Q) (put : Q → P) (f : Filling Q α) : Filling P α :=
  fun (s, p) =>
    match f (s, get p) with
    | .ok a (s', q) => .ok a (s', put q)
    | .error e (s', q) => .error e (s', put q)

end Filling

end Mqtt
