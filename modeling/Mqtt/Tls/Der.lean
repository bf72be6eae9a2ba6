import Mqtt.Wire.Bytes
/-! # DER elements

Certificates and keys are written in DER: each element is a tag byte, a length and that many
bytes of content. A length below 128 is one byte; a longer one is `0x80 + k` followed by `k`
bytes, at most four, in the fewest bytes and only when the short form cannot hold it. Tags with
numbers above 30 and lengths left open are not DER.

Integers are two's complement in the fewest bytes; bit strings start with the count of unused
bits in their last byte, which must be zero bits.
-/

namespace Mqtt

namespace Der

/-- Tag of an integer. -/
def integerTag : UInt8 := 0x02
/-- Tag of a bit string. -/
def bitStringTag : UInt8 := 0x03
/-- Tag of an octet string. -/
def octetStringTag : UInt8 := 0x04
/-- Tag of null. -/
def nullTag : UInt8 := 0x05
/-- Tag of an object identifier. -/
def oidTag : UInt8 := 0x06
/-- Tag of a sequence. -/
def sequenceTag : UInt8 := 0x30
/-- Tag of a set. -/
def setTag : UInt8 := 0x31

/-- The tag of a constructed element in the context class with a number. -/
def contextTag (n : UInt8) : UInt8 := 0xA0 ||| n

/-- The number written by big-endian bytes. -/
def natOfBytes (b : Bytes) : Nat := b.foldl (fun a x => a * 256 + x.toNat) 0

/-- The length of an element's content and what follows the length. -/
def readLength : Bytes → Option (Nat × Bytes)
  | [] => none
  | b :: rest =>
    if b < 0x80 then some (b.toNat, rest)
    else
      let k := (b &&& 0x7F).toNat
      let ls := rest.take k
      if k == 0 || k > 4 || ls.length < k || ls.head? == some 0 then none
      else
        let n := natOfBytes ls
        if n < 128 then none else some (n, rest.drop k)

/-- An element at the head of the input: its tag, its content, and the rest of the input. -/
def read? (input : Bytes) : Option (UInt8 × Bytes × Bytes) :=
  match input with
  | [] => none
  | tag :: rest =>
    if tag &&& 0x1F == 0x1F then none
    else match readLength rest with
      | none => none
      | some (n, body) => if body.length < n then none else some (tag, body.take n, body.drop n)

/-- The content of an element with a given tag at the head of the input, and the rest. -/
def expect? (tag : UInt8) (input : Bytes) : Option (Bytes × Bytes) :=
  match read? input with
  | some (t, content, rest) => if t == tag then some (content, rest) else none
  | none => none

/-- The whole encoding of an element with a given tag at the head of the input, and the rest. -/
def expectWhole? (tag : UInt8) (input : Bytes) : Option (Bytes × Bytes) :=
  (expect? tag input).map fun (_, rest) => (input.take (input.length - rest.length), rest)

/-- Whether the content of an integer is in the fewest bytes. -/
def minimalInteger (c : Bytes) : Bool :=
  match c with
  | [] => false
  | [_] => true
  | a :: b :: _ => !((a == 0 && b < 0x80) || (a == 0xFF && b ≥ 0x80))

/-- The value of an integer's content. -/
def integerValue (c : Bytes) : Int :=
  let n := natOfBytes c
  if c.head?.any (· ≥ 0x80) then (n : Int) - (Nat.pow 2 (8 * c.length) : Nat) else n

/-- An integer at the head of the input, and the rest. -/
def integer? (input : Bytes) : Option (Int × Bytes) :=
  match expect? integerTag input with
  | some (c, rest) => if minimalInteger c then some (integerValue c, rest) else none
  | none => none

/-- The bytes of a bit string at the head of the input, and the rest. -/
def bitString? (input : Bytes) : Option (Bytes × Bytes) :=
  match expect? bitStringTag input with
  | some (unused :: bytes, rest) =>
    let lastOk := match bytes.getLast? with
      | some l => l &&& ((1 <<< unused) - 1) == 0
      | none => unused == 0
    if unused > 7 || !lastOk then none else some (bytes, rest)
  | _ => none

/-- An object identifier as its bytes, at the head of the input, and the rest. -/
def oid? (input : Bytes) : Option (Bytes × Bytes) :=
  match expect? oidTag input with
  | some (c, rest) =>
    if c.isEmpty || c.getLast?.any (· ≥ 0x80) || c.head? == some 0x80 then none else some (c, rest)
  | none => none

end Der

end Mqtt
