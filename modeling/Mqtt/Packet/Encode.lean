import Mqtt.Packet.Header
import Mqtt.Packet.Validate
/-! # Writing packets

A packet is checked, its variable header and payload are assembled, and the fixed header with
the body's length is written in front. A packet that fails its checks, or a field that is too
long, writes nothing.
-/

namespace Mqtt

namespace Connect

/-- The protocol name written when none is set. -/
def defaultProtocolName : Bytes := Bytes.ofString "MQTT"

/-- The protocol level written when none is set. -/
def defaultProtocolLevel : UInt8 := 4

/-- The connect flags byte: clean session, will flag with its QoS and retain bits, password and
username flags. -/
def flagsByte (p : Connect) : UInt8 :=
  let clean : UInt8 := if p.cleanSession then 0x02 else 0
  let will : UInt8 :=
    if p.willFlag then
      (0x04 : UInt8) ||| ((p.willQos <<< 3) &&& 0x18) ||| (if p.willRetain then 0x20 else 0)
    else 0
  let pass : UInt8 := if p.password.isEmpty then 0 else 0x40
  let user : UInt8 := if p.username.isEmpty then 0 else 0x80
  clean ||| will ||| pass ||| user

/-- The variable header and payload of a CONNECT packet. -/
def body (p : Connect) : Except Failure Bytes := do
  let name ← Field.text (if p.protocolName.isEmpty then defaultProtocolName else p.protocolName)
  let level := if p.protocolLevel == 0 then defaultProtocolLevel else p.protocolLevel
  let client ← Field.text p.clientId
  let will ←
    if p.willFlag then do
      let t ← Field.text p.willTopic
      let m ← Field.binary p.willMessage
      pure (t ++ m)
    else pure []
  let user ← if p.username.isEmpty then pure [] else Field.text p.username
  let pass ← if p.password.isEmpty then pure [] else Field.binary p.password
  pure (name ++ [level, p.flagsByte] ++ Field.u16 p.keepAlive ++ client ++ will ++ user ++ pass)

end Connect

namespace Publish

/-- The variable header and payload of a PUBLISH packet. -/
def body (p : Publish) : Except Failure Bytes := do
  let t ← Field.text p.topic
  pure (t ++ (if p.qos > 0 then Field.u16 p.packetId else []) ++ p.payload)

/-- The fixed header of a PUBLISH packet with a body of `n` bytes. -/
def header (p : Publish) (n : Nat) : FixedHeader :=
  (((FixedHeader.mk 3 0 (FixedHeader.length32 n)).setDup p.dup).setQos p.qos).setRetain p.retain

end Publish

/-- A body behind its fixed header; a header that cannot be written stops the writing. -/
def Emission.framed (h : FixedHeader) (body : Except Failure Bytes) : Emission :=
  match body with
  | .error f => .fail f
  | .ok b =>
    let e := h.encode
    match e.failure with
    | some _ => e
    | none => .ok (e.bytes ++ b)

/-- The four bytes of an acknowledgment, refused without an identifier. -/
def ackFrame (k : PacketKind) (i : UInt16) : Emission :=
  if i == 0 then .fail (.of .packetIdRequired)
  else .ok [(FixedHeader.mk k.code k.reservedFlags 2).firstByte, 2, (i >>> 8).toUInt8, i.toUInt8]

namespace Packet

/-- The body of a packet whose kind has a variable body, after its checks. -/
def body : Packet → Except Failure Bytes
  | connect p => p.body
  | publish p => p.body
  | subscribe p => do
    let fs ← p.subscriptions.mapM fun s => do
      let f ← Field.text s.filter
      pure (f ++ [s.qos])
    pure (Field.u16 p.packetId ++ fs.flatten)
  | suback p => pure (Field.u16 p.packetId ++ p.returnCodes)
  | unsubscribe p => do
    let fs ← p.topicFilters.mapM Field.text
    pure (Field.u16 p.packetId ++ fs.flatten)
  | _ => pure []

/-- The bytes of a packet, or why it cannot be written. -/
def encode (p : Packet) : Emission :=
  match p with
  | connack c =>
    match p.validate with
    | .error f => .fail f
    | .ok () => .ok [0x20, 2, if c.sessionPresent then 1 else 0, c.returnCode]
  | puback i => ackFrame .puback i
  | pubrec i => ackFrame .pubrec i
  | pubrel i => ackFrame .pubrel i
  | pubcomp i => ackFrame .pubcomp i
  | unsuback i => ackFrame .unsuback i
  | pingreq | pingresp | disconnect => .ok [(FixedHeader.mk p.kind.code 0 0).firstByte, 0]
  | _ =>
    match p.validate with
    | .error f => .fail f
    | .ok () =>
      match p.body with
      | .error f => .fail f
      | .ok b =>
        let h : FixedHeader :=
          match p with
          | publish q => q.header b.length
          | _ => ⟨p.kind.code, p.kind.reservedFlags, FixedHeader.length32 b.length⟩
        Emission.framed h (.ok b)

end Packet

end Mqtt
