import Mqtt.Codec
/-! # Packets on a stream

Reading packets one after another from a byte stream, and writing a packet to one. A stream
reader that reads into a buffer of fixed size skips a packet that does not fit, so the next read
starts at the next packet.
-/

namespace Mqtt

/-- The size of a buffer packets are read through, in bytes. It is positive: skipping a body
through an empty buffer reads nothing, over and over, and never ends. -/
structure ReadBuffer where
  size : Nat
  positive : 0 < size
  deriving Repr, DecidableEq

instance (n : Nat) : OfNat ReadBuffer (n + 1) := ⟨⟨n + 1, Nat.succ_pos n⟩⟩

instance : Inhabited ReadBuffer := ⟨1024⟩

/-- The outcome of reading one packet from a stream: the packet or the failure, the bytes
consumed, and the unread stream. -/
structure StreamRead where
  result : Except Failure Packet
  used : Nat
  rest : Bytes
  deriving Repr, Inhabited

namespace StreamRead

/-- Reads one packet of at most `maxSize` body bytes, or of at most a mebibyte when `maxSize`
is zero. -/
def packet (s : Bytes) (maxSize : Nat) : StreamRead :=
  let (h, rest, f) := FixedHeader.readFrom s
  let hn := s.length - rest.length
  match f with
  | some e => ⟨.error e, hn, rest⟩
  | none =>
    let limit := if maxSize == 0 then defaultMaxPacketSize else maxSize
    if h.remainingLength > limit then ⟨.error (.of .packetTooLarge), hn, rest⟩
    else if h.remainingLength > rest.length then
      ⟨.error (Reading.shortfall rest), hn + rest.length, []⟩
    else
      let body := rest.take h.remainingLength
      let after := rest.drop h.remainingLength
      let n := hn + h.remainingLength
      match Packet.readFrame h (Packet.empty ((h.kind?).getD .connect)) body with
      | .ok p => ⟨.ok p, n, after⟩
      | .error (e, _) => ⟨.error e, n, after⟩

/-- The failure of skipping `n` bytes in chunks of `chunk` bytes from a stream that holds only
`avail` of them: the end of the stream, or a chunk cut short. -/
def skipShortfall (avail chunk : Nat) : Failure :=
  if avail % chunk == 0 then .of .endOfStream else .of .unexpectedEnd

/-- Reads one packet through a buffer of `cap` bytes. A header that is not valid is reported as
a failed read; a packet larger than the buffer is skipped in chunks of the buffer's size and
reported as too short a buffer. -/
def packetInto (s : Bytes) (cap : ReadBuffer) : StreamRead :=
  let (h, rest, f) := FixedHeader.readFrom s
  let hn := s.length - rest.length
  match f with
  | some e =>
    let e' := if e.is .decode then .detail .readFailed e.message else e
    ⟨.error e', hn, rest⟩
  | none =>
    let total := h.size + h.remainingLength
    if total > cap.size then
      if h.remainingLength > rest.length then
        ⟨.error (skipShortfall rest.length cap.size), hn + rest.length, []⟩
      else
        ⟨.error (.detail .bufferTooShort
          s!"{PacketKind.nameOfCode h.code} of {total} bytes, buffer is {cap.size}"),
          hn + h.remainingLength, rest.drop h.remainingLength⟩
    else if h.remainingLength > rest.length then
      ⟨.error (Reading.shortfall rest), hn, []⟩
    else
      let body := rest.take h.remainingLength
      let after := rest.drop h.remainingLength
      match Packet.readFrame h (Packet.empty ((h.kind?).getD .connect)) body with
      | .ok p => ⟨.ok p, total, after⟩
      | .error (e, _) => ⟨.error e, total, after⟩

end StreamRead

/-- Reads up to `count` packets through a buffer of `cap` bytes, stopping when the stream is
empty. -/
def readPacketsInto (cap : ReadBuffer) : Nat → Bytes → List StreamRead
  | 0, _ => []
  | count + 1, s =>
    if s.isEmpty then []
    else
      let r := StreamRead.packetInto s cap
      r :: readPacketsInto cap count r.rest

/-- The bytes of a packet for a stream: absent packets, packets that fail their checks and
packets of more than `maxSize` bytes (when `maxSize` is not zero) write nothing. The size is
compared as a 32-bit number. -/
def writePacket (p : Option Packet) (maxSize : Nat) : Emission :=
  match p with
  | none => .fail missingPacket
  | some q =>
    match q.validate with
    | .error f => .fail f
    | .ok () =>
      let e := q.encode
      match e.failure with
      | some f => .fail f
      | none =>
        if maxSize > 0 && FixedHeader.length32 e.bytes.length > maxSize then .fail (.of .packetTooLarge) else e

end Mqtt
