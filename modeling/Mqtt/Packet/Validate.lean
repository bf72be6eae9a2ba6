import Mqtt.Failure
import Mqtt.Packet.Basic
/-! # Well-formed packets

The rules a packet must satisfy before it is written. Each rule names the condition it reports,
and the rules of a packet are checked in a fixed order, so a packet with several faults reports
the first of them.
-/

namespace Mqtt

/-- A check: whether a fault is present, and the failure it is reported as. -/
abbrev Check := Bool × Failure

/-- A packet is rejected with the first failure of a list of checks. -/
def firstFailure : List Check → Except Failure Unit
  | [] => .ok ()
  | (bad, f) :: rest => if bad then .error f else firstFailure rest

namespace Connect

/-- A persistent session needs a client id, the will's QoS is at most 2, a will needs a topic
and no will has no will options, and a password needs a username. -/
def validate (p : Connect) : Except Failure Unit :=
  firstFailure
    [(!p.cleanSession && p.clientId.isEmpty, .of .clientIdRequired),
     (p.willQos > 2, .of .invalidQos),
     (p.willFlag && p.willTopic.isEmpty, .of .invalidWill),
     (!p.willFlag && (p.willRetain || p.willQos != 0), .of .invalidWill),
     (!p.password.isEmpty && p.username.isEmpty, .of .passwordWithoutUsername)]

end Connect

namespace Publish

/-- A message has a topic and a QoS of at most 2; DUP needs QoS above 0, which needs an
identifier. -/
def validate (p : Publish) : Except Failure Unit :=
  firstFailure
    [(p.topic.isEmpty, .of .topicNameEmpty),
     (p.qos > 2, .of .invalidQos),
     (p.qos == 0 && p.dup, .of .invalidPacketFlags),
     (p.qos > 0 && p.packetId == 0, .of .packetIdRequired)]

end Publish

/-- The two hexadecimal digits of a byte. -/
def hexByte (b : UInt8) : String := Bytes.toHex [b]

namespace Packet

/-- The checks of every kind: identifiers are non-zero, lists are non-empty, filters are
non-empty with a QoS of at most 2, and SUBACK codes are granted QoS values or the failure code. -/
def validate : Packet → Except Failure Unit
  | connect p => p.validate
  | connack p =>
    if p.sessionPresent && p.returnCode != 0 then
      .error (.detail .encode "session present on refused connection")
    else .ok ()
  | publish p => p.validate
  | puback i | pubrec i | pubrel i | pubcomp i | unsuback i =>
    if i == 0 then .error (.of .packetIdRequired) else .ok ()
  | subscribe p =>
    firstFailure
      (([(p.packetId == 0, .of .packetIdRequired),
        (p.subscriptions.isEmpty, .of .noTopicFilters)] : List Check) ++
       p.subscriptions.flatMap fun s =>
         ([(s.filter.isEmpty, .of .emptySubscribeFilter), (s.qos > 2, .of .invalidQos)] : List Check))
  | suback p =>
    firstFailure
      (([(p.packetId == 0, .of .packetIdRequired),
        (p.returnCodes.isEmpty, .of .noTopicFilters)] : List Check) ++
       p.returnCodes.map fun c =>
         ((!subackCodeValid c, .detail .encode ("SUBACK return code 0x" ++ hexByte c)) : Check))
  | unsubscribe p =>
    firstFailure
      (([(p.packetId == 0, .of .packetIdRequired),
        (p.topicFilters.isEmpty, .of .noTopicFilters)] : List Check) ++
       p.topicFilters.map fun f => ((f.isEmpty, .of .emptySubscribeFilter) : Check))
  | pingreq | pingresp | disconnect => .ok ()

end Packet

end Mqtt
