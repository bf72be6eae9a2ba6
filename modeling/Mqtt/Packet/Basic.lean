import Mqtt.Packet.Kind
import Mqtt.Wire.Bytes
/-! # Control packets

The contents of the fourteen kinds of control packet. Text fields are kept as bytes, because a
packet read from the wire may carry any bytes until it is checked.
-/

namespace Mqtt

/-- A CONNECT packet: who connects, how, and the will to publish if the connection is lost. -/
structure Connect where
  protocolName : Bytes := []
  protocolLevel : UInt8 := 0
  clientId : Bytes := []
  cleanSession : Bool := false
  keepAlive : UInt16 := 0
  username : Bytes := []
  password : Bytes := []
  willFlag : Bool := false
  willRetain : Bool := false
  willQos : UInt8 := 0
  willTopic : Bytes := []
  willMessage : Bytes := []
  deriving DecidableEq, Repr, Inhabited

/-- A CONNACK packet: the broker's answer to CONNECT. -/
structure Connack where
  sessionPresent : Bool := false
  returnCode : UInt8 := 0
  deriving DecidableEq, Repr, Inhabited

/-- A PUBLISH packet: a message on a topic. -/
structure Publish where
  topic : Bytes := []
  payload : Bytes := []
  qos : UInt8 := 0
  retain : Bool := false
  dup : Bool := false
  packetId : UInt16 := 0
  deriving DecidableEq, Repr, Inhabited

/-- A topic filter with the QoS requested for it. -/
structure Subscription where
  filter : Bytes := []
  qos : UInt8 := 0
  deriving DecidableEq, Repr, Inhabited

/-- A SUBSCRIBE packet. -/
structure Subscribe where
  packetId : UInt16 := 0
  subscriptions : List Subscription := []
  deriving DecidableEq, Repr, Inhabited

/-- A SUBACK packet: one return code per requested filter. -/
structure Suback where
  packetId : UInt16 := 0
  returnCodes : List UInt8 := []
  deriving DecidableEq, Repr, Inhabited

/-- An UNSUBSCRIBE packet. -/
structure Unsubscribe where
  packetId : UInt16 := 0
  topicFilters : List Bytes := []
  deriving DecidableEq, Repr, Inhabited

/-- A control packet of one of the fourteen kinds. -/
inductive Packet where
  | connect (p : Connect)
  | connack (p : Connack)
  | publish (p : Publish)
  | puback (packetId : UInt16)
  | pubrec (packetId : UInt16)
  | pubrel (packetId : UInt16)
  | pubcomp (packetId : UInt16)
  | subscribe (p : Subscribe)
  | suback (p : Suback)
  | unsubscribe (p : Unsubscribe)
  | unsuback (packetId : UInt16)
  | pingreq
  | pingresp
  | disconnect
  deriving DecidableEq, Repr, Inhabited

namespace Packet

/-- The kind of a packet. -/
def kind : Packet → PacketKind
  | connect _ => .connect
  | connack _ => .connack
  | publish _ => .publish
  | puback _ => .puback
  | pubrec _ => .pubrec
  | pubrel _ => .pubrel
  | pubcomp _ => .pubcomp
  | subscribe _ => .subscribe
  | suback _ => .suback
  | unsubscribe _ => .unsubscribe
  | unsuback _ => .unsuback
  | pingreq => .pingreq
  | pingresp => .pingresp
  | disconnect => .disconnect

/-- The empty packet of a kind, every field at its zero value. -/
def empty : PacketKind → Packet
  | .connect => connect {}
  | .connack => connack {}
  | .publish => publish {}
  | .puback => puback 0
  | .pubrec => pubrec 0
  | .pubrel => pubrel 0
  | .pubcomp => pubcomp 0
  | .subscribe => subscribe {}
  | .suback => suback {}
  | .unsubscribe => unsubscribe {}
  | .unsuback => unsuback 0
  | .pingreq => pingreq
  | .pingresp => pingresp
  | .disconnect => disconnect

/-- The packet identifier, for the kinds that carry one. -/
def packetId? : Packet → Option UInt16
  | publish p => some p.packetId
  | puback i | pubrec i | pubrel i | pubcomp i | unsuback i => some i
  | subscribe p => some p.packetId
  | suback p => some p.packetId
  | unsubscribe p => some p.packetId
  | _ => none

/-- Replaces the packet identifier; kinds without one are unchanged. -/
def setPacketId (i : UInt16) : Packet → Packet
  | publish p => publish { p with packetId := i }
  | puback _ => puback i
  | pubrec _ => pubrec i
  | pubrel _ => pubrel i
  | pubcomp _ => pubcomp i
  | subscribe p => subscribe { p with packetId := i }
  | suback p => suback { p with packetId := i }
  | unsubscribe p => unsubscribe { p with packetId := i }
  | unsuback _ => unsuback i
  | p => p

/-- The number of topic filters of a SUBSCRIBE or UNSUBSCRIBE packet, zero for other kinds. -/
def entryCount : Packet → Nat
  | subscribe p => p.subscriptions.length
  | unsubscribe p => p.topicFilters.length
  | _ => 0

theorem kind_empty (k : PacketKind) : (empty k).kind = k := by
  cases k <;> rfl

end Packet

end Mqtt
