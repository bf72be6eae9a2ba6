import Mqtt.Wire.Reading
import Mqtt.Wire.Writing
/-! # The fixed header

Every control packet starts with a fixed header: one byte holding the packet kind's code in its
high nibble and four flag bits in its low nibble, then the remaining length. For PUBLISH the
flags are the DUP bit, two QoS bits and the RETAIN bit; every other kind has fixed flags.
-/

namespace Mqtt

/-- A fixed header: kind code, flag bits and remaining length. -/
structure FixedHeader where
  code : UInt8
  flags : UInt8 := 0
  remainingLength : Nat := 0
  deriving DecidableEq, Repr, Inhabited

namespace FixedHeader

/-- The first byte: code in the high nibble, flags in the low nibble. -/
def firstByte (h : FixedHeader) : UInt8 := (h.code <<< 4) ||| (h.flags &&& 0x0F)

/-- The kind named by the code, if it names one. -/
def kind? (h : FixedHeader) : Option PacketKind := PacketKind.ofCode? h.code

/-- The DUP flag. -/
def dup (h : FixedHeader) : Bool := h.flags &&& 0x08 != 0

/-- The QoS bits. -/
def qos (h : FixedHeader) : UInt8 := (h.flags &&& 0x06) >>> 1

/-- The RETAIN flag. -/
def retain (h : FixedHeader) : Bool := h.flags &&& 0x01 != 0

/-- Sets or clears the DUP flag. -/
def setDup (h : FixedHeader) (b : Bool) : FixedHeader :=
  { h with flags := if b then h.flags ||| 0x08 else h.flags &&& ~~~(0x08 : UInt8) }

/-- Sets the QoS bits from the low two bits of `q`. -/
def setQos (h : FixedHeader) (q : UInt8) : FixedHeader :=
  { h with flags := (h.flags &&& ~~~(0x06 : UInt8)) ||| ((q <<< 1) &&& 0x06) }

/-- Sets or clears the RETAIN flag. -/
def setRetain (h : FixedHeader) (b : Bool) : FixedHeader :=
  { h with flags := if b then h.flags ||| 0x01 else h.flags &&& ~~~(0x01 : UInt8) }

/-- A body length as the header's 32-bit remaining-length field holds it: a body of `2^32`
bytes or more wraps around. -/
def length32 (n : Nat) : Nat := n % 4294967296

/-- The number of bytes the header takes on the wire. -/
def size (h : FixedHeader) : Nat := 1 + Field.lengthSize h.remainingLength

/-- Checks the flags against the kind: PUBLISH may not have both QoS bits set, PUBREL,
SUBSCRIBE and UNSUBSCRIBE carry exactly `0010`, all other kinds carry `0000`. -/
def checkFlags (h : FixedHeader) : Except Failure Unit :=
  match h.kind? with
  | some .publish => if h.qos > 2 then .error (.of .invalidPacketFlags) else .ok ()
  | some k => if h.flags == k.reservedFlags then .ok () else .error (.of .invalidPacketFlags)
  | none => .error (.of .invalidPacketType)

/-- The header's bytes; a code that names no kind is refused before anything is written, and a
remaining length that is too large after the first byte. -/
def encode (h : FixedHeader) : Emission :=
  match h.kind? with
  | none => .fail (.detail .encode (toString h.code))
  | some _ =>
    match Field.length h.remainingLength with
    | .ok g => .ok (h.firstByte :: g)
    | .error f => ⟨[h.firstByte], some f⟩

/-- The header whose first byte is `b` and whose remaining length is not yet read. -/
def ofFirstByte (b : UInt8) : FixedHeader := ⟨b >>> 4, b &&& 0x0F, 0⟩

/-- Reads a header; the code and flags are kept once the first byte is read, and a code that
names no kind stops the reading there. -/
def read : Filling FixedHeader Unit := do
  let b ← Filling.read Reading.byte
  Filling.update fun _ => ofFirstByte b
  if (ofFirstByte b).kind?.isNone then throw (.of .invalidPacketType)
  let n ← Filling.read Reading.length
  Filling.update fun h => { h with remainingLength := n }

end FixedHeader

end Mqtt
