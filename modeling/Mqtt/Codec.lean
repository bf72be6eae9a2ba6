import Mqtt.Packet.Encode
import Mqtt.Packet.Decode
/-! # The codec

A codec writes packets into buffers and reads them back from buffers. It supplies the protocol
name and level of CONNECT packets that leave them unset, and may limit the number of topic
filters in one SUBSCRIBE or UNSUBSCRIBE packet. Reading a buffer reads the first packet in it;
bytes after that packet are not looked at.
-/

namespace Mqtt

/-- Codec settings. -/
structure Codec where
  protocolName : Bytes := []
  protocolLevel : UInt8 := 0
  maxTopicFilters : Int := 0
  deriving DecidableEq, Repr, Inhabited

/-- The largest packet a stream reader accepts when no limit is given: one mebibyte. -/
def defaultMaxPacketSize : Nat := 1048576

/-- The failure for an absent packet. -/
def missingPacket : Failure := .of .missingArgument

/-- The end of a stream inside a body means the body is malformed. -/
def Failure.inBody (f : Failure) : Failure :=
  if f.is .endOfStream || f.is .unexpectedEnd then .of .malformedPacket else f

/-- The end of a buffer inside a header means the buffer is too short. -/
def Failure.inHeader (f : Failure) : Failure :=
  if f.is .endOfStream || f.is .unexpectedEnd then .of .bufferTooShort else f

/-- Reads a header from the front of a stream: the header as far as it was read, the unread
stream, and the failure that stopped the reading. -/
def FixedHeader.readFrom (s : Bytes) : FixedHeader × Bytes × Option Failure :=
  match FixedHeader.read (s, default) with
  | .ok () (r, h) => (h, r, none)
  | .error e (r, h) => (h, r, some e)

/-- Reads a whole body of exactly `h.remainingLength` bytes into a packet: a body that ends
early is malformed, and one with bytes left over has trailing bytes. -/
def Packet.readFrame (h : FixedHeader) (target : Packet) (body : Bytes) :
    Except (Failure × Nat) Packet :=
  let r := Packet.readBodyFrom h target body
  match r.failure with
  | some f => .error (f.inBody, r.used)
  | none => if r.used != h.remainingLength then .error (.of .trailingBytes, r.used) else .ok r.packet

namespace Codec

/-- The packet as it will be written: absent packets and too many topic filters are refused, and
a CONNECT packet without protocol name or level takes the codec's. -/
def prepare (c : Codec) : Option Packet → Except Failure Packet
  | none => .error missingPacket
  | some p =>
    if c.maxTopicFilters > 0 && (p.entryCount : Int) > c.maxTopicFilters then
      .error (.of .tooManyTopicFilters)
    else
      match p with
      | .connect q =>
        .ok (.connect { q with
          protocolName := if q.protocolName.isEmpty then c.protocolName else q.protocolName
          protocolLevel := if q.protocolLevel == 0 then c.protocolLevel else q.protocolLevel })
      | _ => .ok p

/-- Writes a packet into a buffer of `cap` bytes: the bytes written, or why none were. -/
def encode (c : Codec) (cap : Nat) (p : Option Packet) : Except Failure Bytes := do
  let q ← c.prepare p
  let e := q.encode
  match e.failure with
  | some f => .error f
  | none =>
    if e.bytes.length > cap then
      .error (.detail .bufferTooShort
        s!"{q.kind.name} needs {e.bytes.length} bytes, have {cap}")
    else .ok e.bytes

/-- Reads the header at the front of a buffer and checks that the buffer holds the body. -/
def readHeader (buf : Bytes) : Except (Failure × Nat) (FixedHeader × Bytes) :=
  let (h, rest, f) := FixedHeader.readFrom buf
  let n := buf.length - rest.length
  match f with
  | some e => .error (e.inHeader, n)
  | none =>
    if h.remainingLength > rest.length then
      .error (.detail .bufferTooShort
        s!"remaining length {h.remainingLength} exceeds {rest.length} available bytes", n)
    else .ok (h, rest)

/-- Reads the first packet of a buffer: the packet and the bytes it used, or the failure and
the bytes used before it. -/
def decode (_c : Codec) (buf : Bytes) : Except (Failure × Nat) (Packet × Nat) := do
  let (h, rest) ← readHeader buf
  let hn := buf.length - rest.length
  let k := (h.kind?).getD .connect
  match Packet.readFrame h (Packet.empty k) (rest.take h.remainingLength) with
  | .ok p => .ok (p, hn + h.remainingLength)
  | .error (f, n) => .error (f, hn + n)

/-- Reads the first packet of a buffer into a given packet, whose kind the header must name;
fields that the body does not set keep their values. -/
def decodeInto (_c : Codec) (buf : Bytes) (target : Option Packet) :
    Except (Failure × Nat) (Packet × Nat) := do
  let some t := target | .error (missingPacket, 0)
  let (h, rest) ← readHeader buf
  let hn := buf.length - rest.length
  if h.code != t.kind.code then
    .error (.detail .invalidPacketType
      s!"want {t.kind.name}, got {PacketKind.nameOfCode h.code}", hn)
  else
    match Packet.readFrame h t (rest.take h.remainingLength) with
    | .ok p => .ok (p, hn + h.remainingLength)
    | .error (f, n) => .error (f, hn + n)

end Codec

end Mqtt
