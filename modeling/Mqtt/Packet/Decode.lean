import Mqtt.Packet.Header
import Mqtt.Packet.Basic
/-! # Reading packet bodies

A packet body is read into a packet of the header's kind, field by field. A field that fails to
read leaves the packet as filled so far; the fields that are read straight into the packet are
reset to their zero value by a failed read. The number of bytes used is the difference between
the stream's length before and after.
-/

namespace Mqtt

namespace Filling

variable {P α : Type}

/-- The number of unread bytes. -/
def unread : Filling P Nat := fun (s, p) => .ok s.length (s, p)

/-- Reads a field straight into the value: a failed read leaves the field at `zero`. -/
def field (r : Reading α) (zero : α) (set : P → α → P) : Filling P α := fun (s, p) =>
  match r s with
  | .ok a s' => .ok a (s', set p a)
  | .error e s' => .error e (s', set p zero)

end Filling

/-- Fails unless the header's code is the kind's code. -/
def expectKind (h : FixedHeader) (k : PacketKind) {P : Type} : Filling P Unit :=
  if h.code == k.code then pure () else throw (.of .invalidPacketType)

/-- Fails unless the header's flags suit its kind. -/
def expectFlags (h : FixedHeader) {P : Type} : Filling P Unit :=
  match h.checkFlags with
  | .ok () => pure ()
  | .error f => throw f

namespace Connect

/-- Takes the connect flags apart: the reserved bit must be clear, the will QoS at most 2,
will options only with a will, and a password only with a username. -/
def applyFlags (f : UInt8) : Filling Connect Unit := do
  if f &&& 0x01 != 0 then throw (.of .invalidConnectFlags)
  let qos := (f &&& 0x18) >>> 3
  let will := f &&& 0x04 != 0
  let retain := f &&& 0x20 != 0
  Filling.update fun p =>
    { p with cleanSession := f &&& 0x02 != 0, willFlag := will, willQos := qos,
             willRetain := retain }
  if qos > 2 then throw (.of .invalidConnectFlags)
  if !will && (qos != 0 || retain) then throw (.of .invalidConnectFlags)
  if f &&& 0x40 != 0 && f &&& 0x80 == 0 then throw (.of .invalidConnectFlags)

/-- Reads a CONNECT body. -/
def readBody (h : FixedHeader) : Filling Connect Unit := do
  expectKind h .connect
  expectFlags h
  let start ← Filling.unread
  let name ← Filling.read Reading.text
  Filling.update fun p => { p with protocolName := name }
  let fixed ← Filling.read (Reading.bytes 2)
  let level := fixed.headD 0
  let f := (fixed.drop 1).headD 0
  Filling.update fun p => { p with protocolLevel := level }
  applyFlags f
  let _ ← Filling.field Reading.u16 0 fun p v => { p with keepAlive := v }
  let _ ← Filling.field Reading.text [] fun p v => { p with clientId := v }
  if f &&& 0x04 != 0 then
    let _ ← Filling.field Reading.text [] fun p v => { p with willTopic := v }
    let _ ← Filling.field Reading.binary [] fun p v => { p with willMessage := v }
  if f &&& 0x80 != 0 then
    let _ ← Filling.field Reading.text [] fun p v => { p with username := v }
  if f &&& 0x40 != 0 then
    let _ ← Filling.field Reading.binary [] fun p v => { p with password := v }
  let left ← Filling.unread
  if start - left != h.remainingLength then throw (.of .malformedPacket)

end Connect

namespace Connack

/-- Reads a CONNACK body: two bytes, the first holding only the session-present bit. -/
def readBody (h : FixedHeader) : Filling Connack Unit := do
  expectKind h .connack
  expectFlags h
  if h.remainingLength != 2 then throw (.of .malformedPacket)
  let b ← Filling.read (Reading.bytes 2)
  let f := b.headD 0
  if f &&& 0xFE != 0 then throw (.of .invalidConnackFlags)
  Filling.update fun _ => { sessionPresent := f &&& 0x01 != 0, returnCode := (b.drop 1).headD 0 }

end Connack

/-- The bytes `s` padded with zeros to `n` bytes. -/
def padTo (n : Nat) (s : Bytes) : Bytes := s ++ List.replicate (n - s.length) 0

namespace Publish

/-- Reads a payload of `n` bytes; when the stream ends first, the payload holds the bytes that
arrived followed by zeros. -/
def readPayload (n : Nat) : Filling Publish Unit := fun (s, p) =>
  if n ≤ s.length then .ok () (s.drop n, { p with payload := s.take n })
  else .error (Reading.shortfall s) ([], { p with payload := padTo n s })

/-- Reads a PUBLISH body: flags from the header, the topic, an identifier above QoS 0, and the
rest of the remaining length as payload. A payload cut short keeps the bytes that arrived,
padded with zeros to its announced length. -/
def readBody (h : FixedHeader) : Filling Publish Unit := do
  expectKind h .publish
  expectFlags h
  Filling.update fun p => { p with dup := h.dup, qos := h.qos, retain := h.retain }
  let start ← Filling.unread
  let _ ← Filling.field Reading.text [] fun p v => { p with topic := v }
  if h.qos > 0 then
    let _ ← Filling.field Reading.u16 0 fun p v => { p with packetId := v }
  let left ← Filling.unread
  let used := start - left
  if used > h.remainingLength then throw (.of .malformedPacket)
  let n := h.remainingLength - used
  Filling.update fun p => { p with payload := [] }
  if n > 0 then readPayload n


end Publish

/-- Reads an acknowledgment body of a kind whose flags are exactly `k.reservedFlags`. Every
outcome stores an identifier: the one read, or zero when a check or the read fails. -/
def readAck (k : PacketKind) (h : FixedHeader) : Filling UInt16 Unit := do
  Filling.update fun _ => 0
  expectKind h k
  if h.flags != k.reservedFlags then throw (.of .invalidPacketFlags)
  if h.remainingLength != 2 then throw (.of .malformedPacket)
  let _ ← Filling.field Reading.u16 0 fun _ v => v

namespace Subscribe

/-- Reads requested subscriptions while fewer than `rl` bytes of the body are used. -/
def readEntries (rl start : Nat) : Nat → Filling Subscribe Unit
  | 0 => pure ()
  | fuel + 1 => do
    let left ← Filling.unread
    if start - left < rl then
      let f ← Filling.read Reading.text
      let q ← Filling.read Reading.byte
      if q > 2 then throw (.of .invalidSubscribeQos)
      Filling.update fun p => { p with subscriptions := p.subscriptions ++ [⟨f, q⟩] }
      readEntries rl start fuel

/-- Reads a SUBSCRIBE body: the identifier and at least one filter with its QoS. -/
def readBody (h : FixedHeader) : Filling Subscribe Unit := do
  expectKind h .subscribe
  expectFlags h
  let start ← Filling.unread
  let i ← Filling.read Reading.u16
  Filling.update fun _ => { packetId := i }
  readEntries h.remainingLength start (start + 1)
  if (← Filling.current).subscriptions.isEmpty then throw (.of .malformedPacket)

end Subscribe

namespace Suback

/-- Reads a SUBACK body: the identifier and one return code per remaining byte. A code that is
not valid stops the reading, with the codes before it kept and zeros after. -/
def readBody (h : FixedHeader) : Filling Suback Unit := do
  expectKind h .suback
  expectFlags h
  if h.remainingLength ≤ 2 then throw (.of .malformedPacket)
  let i ← Filling.read Reading.u16
  Filling.update fun p => { p with packetId := i }
  let codes ← Filling.read (Reading.bytes (h.remainingLength - 2))
  let good := codes.takeWhile subackCodeValid
  Filling.update fun p => { p with returnCodes := padTo codes.length good }
  if good.length < codes.length then throw (.of .invalidSubackCode)

end Suback

namespace Unsubscribe

/-- Reads topic filters while fewer than `rl` bytes of the body are used. -/
def readEntries (rl start : Nat) : Nat → Filling Unsubscribe Unit
  | 0 => pure ()
  | fuel + 1 => do
    let left ← Filling.unread
    if start - left < rl then
      let f ← Filling.read Reading.text
      Filling.update fun p => { p with topicFilters := p.topicFilters ++ [f] }
      readEntries rl start fuel

/-- Reads an UNSUBSCRIBE body: the identifier and at least one filter. -/
def readBody (h : FixedHeader) : Filling Unsubscribe Unit := do
  expectKind h .unsubscribe
  expectFlags h
  let start ← Filling.unread
  let i ← Filling.read Reading.u16
  Filling.update fun _ => { packetId := i }
  readEntries h.remainingLength start (start + 1)
  if (← Filling.current).topicFilters.isEmpty then throw (.of .malformedPacket)

end Unsubscribe

/-- Checks the header of a packet without a body: its kind, no flags, no remaining length. -/
def readEmpty (k : PacketKind) (h : FixedHeader) {P : Type} : Filling P Unit := do
  expectKind h k
  if h.flags != 0 then throw (.of .invalidPacketFlags)
  if h.remainingLength != 0 then throw (.of .malformedPacket)

namespace Packet

/-- Reads a body described by a header into a packet, which decides the kind expected. -/
def readBody (h : FixedHeader) : Packet → Filling Packet Unit
  | connect c => Filling.focus (fun _ => c) connect (Connect.readBody h)
  | connack c => Filling.focus (fun _ => c) connack (Connack.readBody h)
  | publish c => Filling.focus (fun _ => c) publish (Publish.readBody h)
  | puback i => Filling.focus (fun _ => i) puback (readAck .puback h)
  | pubrec i => Filling.focus (fun _ => i) pubrec (readAck .pubrec h)
  | pubrel i => Filling.focus (fun _ => i) pubrel (readAck .pubrel h)
  | pubcomp i => Filling.focus (fun _ => i) pubcomp (readAck .pubcomp h)
  | subscribe c => Filling.focus (fun _ => c) subscribe (Subscribe.readBody h)
  | suback c => Filling.focus (fun _ => c) suback (Suback.readBody h)
  | unsubscribe c => Filling.focus (fun _ => c) unsubscribe (Unsubscribe.readBody h)
  | unsuback i => Filling.focus (fun _ => i) unsuback (readAck .unsuback h)
  | pingreq => readEmpty .pingreq h
  | pingresp => readEmpty .pingresp h
  | disconnect => readEmpty .disconnect h

/-- The outcome of reading a body from a stream into a packet: the packet as filled, the
bytes used, the unread stream, and the failure that stopped the reading, if any. -/
structure BodyRead where
  packet : Packet
  used : Nat
  rest : Bytes
  failure : Option Failure
  deriving Repr, Inhabited

/-- Reads a body from a stream into a packet. -/
def readBodyFrom (h : FixedHeader) (target : Packet) (s : Bytes) : BodyRead :=
  match readBody h target (s, target) with
  | .ok () (r, p) => ⟨p, s.length - r.length, r, none⟩
  | .error e (r, p) => ⟨p, s.length - r.length, r, some e⟩

end Packet

end Mqtt
