import Mqtt.Topic
import Mqtt.Packet.Message
/-! # The will

The will is the message the broker publishes for the client if its connection is lost without a
DISCONNECT. It travels in the CONNECT packet.
-/

namespace Mqtt

/-- A will message. -/
structure Will where
  topic : Bytes := []
  payload : Bytes := []
  qos : UInt8 := 0
  retain : Bool := false
  deriving DecidableEq, Repr, Inhabited

namespace Will

/-- The will a CONNECT packet carries, if its will flag is set. -/
def ofConnect : Option Connect → Option Will
  | some c => if c.willFlag then some ⟨c.willTopic, c.willMessage, c.willQos, c.willRetain⟩ else none
  | none => none

/-- Puts a will with a topic into a CONNECT packet; a will without topic changes nothing. -/
def applyTo (w : Will) (c : Connect) : Connect :=
  if w.topic.isEmpty then c
  else { c with willFlag := true, willTopic := w.topic, willMessage := w.payload,
                willQos := w.qos, willRetain := w.retain }

/-- The will as a message. -/
def toMessage (w : Will) : Message := { topic := w.topic, payload := w.payload, qos := w.qos, retain := w.retain }

/-- A will has a valid topic name, a QoS of at most 2, and a payload that fits a binary field. -/
def validate (w : Will) : Except Failure Unit := do
  Topic.validateName w.topic
  if w.qos > 2 then throw (.of .invalidQos)
  if w.payload.length > 65535 then throw (.of .stringTooLong)

end Will

end Mqtt
