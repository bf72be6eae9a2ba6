import Mqtt.Doc.Basic
import Mqtt.Stream
import Mqtt.Packet.Message
/-! # Packets as documents

Packets, headers and messages read from and written as documents. A packet document names its
kind under `type`, by name or by code, and holds one field per packet field, named in snake
case. A written packet holds all its fields. Results of writing and reading give the bytes
written or the packet read, with the byte counts and any failure beside them.
-/

namespace Mqtt

namespace PacketKind

/-- The kind a document names under `type`, by name or by code from 1 to 14. -/
def ofDoc (d : Doc) : DocRead PacketKind :=
  match d.get? "type" with
  | some (.str s) =>
    match ofName? s with
    | some k => pure k
    | none => throw s!"unknown packet type \"{s}\""
  | some (.int n) =>
    match (if 0 < n && n < 15 then ofCode? n.toNat.toUInt8 else none) with
    | some k => pure k
    | none => throw s!"packet type {n} cannot be built"
  | _ => throw "field type is required"

end PacketKind

namespace Connect

/-- The fields of a CONNECT packet from a document. -/
def ofDoc (d : Doc) : DocRead Connect := do
  return {
    protocolName := ← d.getText "protocol_name", protocolLevel := ← d.getU8 "protocol_level",
    clientId := ← d.getText "client_id", cleanSession := ← d.getBool "clean_session",
    keepAlive := ← d.getU16 "keep_alive", username := ← d.getText "username",
    password := ← d.getBytes "password", willFlag := ← d.getBool "will_flag",
    willRetain := ← d.getBool "will_retain", willQos := ← d.getU8 "will_qos",
    willTopic := ← d.getText "will_topic", willMessage := ← d.getBytes "will_message" }

/-- A CONNECT packet's fields as a document. -/
def toDoc (c : Connect) : List (String × Doc) :=
  [("protocol_name", .ofText c.protocolName), ("protocol_level", c.protocolLevel.toNat),
   ("client_id", .ofText c.clientId), ("clean_session", c.cleanSession),
   ("keep_alive", c.keepAlive.toNat), ("username", .ofText c.username),
   ("password", .ofBytes c.password), ("will_flag", c.willFlag), ("will_retain", c.willRetain),
   ("will_qos", c.willQos.toNat), ("will_topic", .ofText c.willTopic),
   ("will_message", .ofBytes c.willMessage)]

end Connect

/-- A byte from a document. -/
def byteOfDoc (k : String) : Doc → DocRead UInt8
  | .int n => if n < 0 || n > 255 then throw s!"field {k}: out of range" else pure n.toNat.toUInt8
  | _ => throw s!"field {k}: not a number"

namespace Packet

/-- A packet from a document. -/
def ofDoc (d : Doc) : DocRead Packet := do
  let k ← PacketKind.ofDoc d
  let i ← d.getU16 "packet_id"
  match k with
  | .connect => return .connect (← Connect.ofDoc d)
  | .connack => return .connack ⟨← d.getBool "session_present", ← d.getU8 "return_code"⟩
  | .publish => return .publish {
      topic := ← d.getText "topic", payload := ← d.getBytes "payload", qos := ← d.getU8 "qos",
      retain := ← d.getBool "retain", dup := ← d.getBool "dup", packetId := i }
  | .puback => return .puback i
  | .pubrec => return .pubrec i
  | .pubrel => return .pubrel i
  | .pubcomp => return .pubcomp i
  | .unsuback => return .unsuback i
  | .subscribe =>
    let subs ← (← d.getList "subscriptions").mapM fun s => do
      return ({ filter := ← s.getText "filter", qos := ← s.getU8 "qos" } : Subscription)
    return .subscribe ⟨i, subs⟩
  | .suback => return .suback ⟨i, ← (← d.getList "return_codes").mapM (byteOfDoc "return_codes")⟩
  | .unsubscribe =>
    let fs ← (← d.getList "topic_filters").mapM fun f => match f with
      | .str s => pure (Bytes.ofString s)
      | _ => throw "field topic_filters: not a string"
    return .unsubscribe ⟨i, fs⟩
  | .pingreq => return .pingreq
  | .pingresp => return .pingresp
  | .disconnect => return .disconnect

/-- A packet as a document with all its fields. -/
def toDoc (p : Packet) : Doc :=
  let t := ("type", Doc.str p.kind.name)
  let withId (i : UInt16) := Doc.obj [t, ("packet_id", i.toNat)]
  match p with
  | .connect c => .obj (t :: c.toDoc)
  | .connack c => .obj [t, ("session_present", c.sessionPresent), ("return_code", c.returnCode.toNat)]
  | .publish c => .obj [t, ("topic", .ofText c.topic), ("payload", .ofBytes c.payload),
      ("qos", c.qos.toNat), ("retain", c.retain), ("dup", c.dup), ("packet_id", c.packetId.toNat)]
  | .puback i | .pubrec i | .pubrel i | .pubcomp i | .unsuback i => withId i
  | .subscribe c => .obj [t, ("packet_id", c.packetId.toNat), ("subscriptions", .list c.subscriptions
      fun s => .obj [("filter", .ofText s.filter), ("qos", s.qos.toNat)])]
  | .suback c => .obj [t, ("packet_id", c.packetId.toNat),
      ("return_codes", .list c.returnCodes fun x => x.toNat)]
  | .unsubscribe c => .obj [t, ("packet_id", c.packetId.toNat),
      ("topic_filters", .list c.topicFilters .ofText)]
  | _ => .obj [t]

end Packet

/-- A header as a document, with its flags taken apart and their check. -/
def FixedHeader.toDoc (h : FixedHeader) : Doc :=
  .obj [("type", h.code.toNat), ("type_name", .str (PacketKind.nameOfCode h.code)),
    ("flags", h.flags.toNat), ("remaining_length", h.remainingLength), ("size", h.size),
    ("validate_flags", .ofCheck h.checkFlags), ("dup", h.dup), ("qos", h.qos.toNat),
    ("retain", h.retain)]

namespace Message

/-- A message from a document. -/
def ofDoc (d : Doc) : DocRead Message := do
  return { topic := ← d.getText "topic", payload := ← d.getBytes "payload", qos := ← d.getU8 "qos",
           retain := ← d.getBool "retain", dup := ← d.getBool "dup", packetId := ← d.getU16 "packet_id" }

/-- A message's fields as a document. -/
def toDoc (m : Message) : List (String × Doc) :=
  [("topic", .ofText m.topic), ("payload", .ofBytes m.payload), ("qos", m.qos.toNat),
   ("retain", m.retain), ("dup", m.dup), ("packet_id", m.packetId.toNat)]

end Message

namespace Emission

/-- The bytes written and their count, and the failure if there was one; `withBytes` keeps the
bytes in the document also beside a failure. -/
def toDoc (e : Emission) (withBytes : Bool := false) : Doc :=
  match e.failure with
  | none => .obj [("hex", .ofBytes e.bytes), ("n", e.bytes.length)]
  | some f => .obj (Doc.failureFields f ++ ([("n", e.bytes.length)] : Doc.Fields) ++
      (if withBytes then [("hex", Doc.ofBytes e.bytes)] else []))

/-- An emission of bytes or of a failure before any. -/
def ofExcept (r : Except Failure Bytes) : Emission :=
  match r with
  | .ok b => .ok b
  | .error f => .fail f

end Emission

/-- A packet read with the bytes it used, or the failure and the bytes used before it. -/
def decodedDoc (r : Except (Failure × Nat) (Packet × Nat)) : Doc :=
  match r with
  | .ok (p, n) => .obj [("packet", p.toDoc), ("n", n)]
  | .error (f, n) => .obj (Doc.failureFields f ++ ([("n", n)] : Doc.Fields))

/-- A packet read from a stream, with the bytes used and the bytes left. -/
def StreamRead.toDoc (r : StreamRead) : Doc :=
  let tail : Doc.Fields := [("n", r.used), ("remaining", r.rest.length)]
  match r.result with
  | .ok p => .obj (("packet", p.toDoc) :: tail)
  | .error f => .obj (Doc.failureFields f ++ tail)

/-- A body read as far as it got. -/
def Packet.BodyRead.toDoc (r : Packet.BodyRead) : Doc :=
  .obj ([("packet", r.packet.toDoc), ("n", r.used), ("remaining", r.rest.length)] ++
    (match r.failure with | some f => Doc.failureFields f | none => []))

/-- A field read from a stream, with the bytes used and the bytes left. -/
def Reading.toDoc {α : Type} (r : Reading α) (s : Bytes) (val : α → Doc) : Doc :=
  match r s with
  | .ok a rest => .obj [("value", val a), ("n", s.length - rest.length), ("remaining", rest.length)]
  | .error f rest =>
    .obj (Doc.failureFields f ++ ([("n", s.length - rest.length), ("remaining", rest.length)] : Doc.Fields))

end Mqtt
