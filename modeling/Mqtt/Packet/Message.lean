import Mqtt.Packet.Basic
/-! # Application messages

A message is what a PUBLISH packet carries, seen by the application: topic, payload, QoS,
retain and duplicate flags, and the packet identifier it arrived with.
-/

namespace Mqtt

/-- An application message. -/
structure Message where
  topic : Bytes := []
  payload : Bytes := []
  qos : UInt8 := 0
  retain : Bool := false
  dup : Bool := false
  packetId : UInt16 := 0
  deriving DecidableEq, Repr, Inhabited

namespace Publish

/-- The message a PUBLISH packet carries. -/
def toMessage (p : Publish) : Message :=
  ⟨p.topic, p.payload, p.qos, p.retain, p.dup, p.packetId⟩

/-- Writes a message's topic, payload, QoS and retain flag into a PUBLISH packet; its DUP flag
and identifier stay. -/
def setMessage (p : Publish) (m : Message) : Publish :=
  { p with topic := m.topic, payload := m.payload, qos := m.qos, retain := m.retain }

end Publish

end Mqtt
