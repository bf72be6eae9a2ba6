import Mqtt.Packet.Kind
/-! # Failures

Every operation of the library that can fail reports a `Failure`. A failure is built from
named `Condition`s: each condition has a fixed text and may refine a more general condition
(a malformed packet is a decode error), and a failure may add detail text or carry the
failure that caused it. `Failure.message` is the text a user sees; `Failure.conditions`
lists every condition the failure can be recognised by, and `Failure.primary` picks the
most specific of them.
-/

namespace Mqtt

/-- The named conditions a failure can be recognised by, most specific first. -/
inductive Condition where
  | connectRefused
  | ackTimeout
  | packetTooLarge
  | trailingBytes
  | stringTooLong
  | invalidUtf8
  | containsNul
  | lengthTooLarge
  | lengthMalformed
  | invalidPacketType
  | invalidPacketFlags
  | malformedPacket
  | packetIdRequired
  | invalidConnackFlags
  | invalidConnectFlags
  | invalidWill
  | passwordWithoutUsername
  | clientIdRequired
  | topicNameEmpty
  | invalidQos
  | invalidSubackCode
  | noTopicFilters
  | tooManyTopicFilters
  | invalidSubscribeQos
  | emptySubscribeFilter
  | invalidTopicName
  | invalidTopicFilter
  | emptyTopic
  | invalidUri
  | unsupportedScheme
  | proxyFailed
  | textFrame
  | alreadySubscribed
  | notSubscribed
  | subscribeRefused
  | failed
  | noCapacity
  | timedOut
  | encode
  | decode
  | sendFailed
  | missingArgument
  | bufferTooShort
  | readError
  | readFailed
  | readTimeout
  | peerClosed
  | reconnectFailed
  | socketConnectFailed
  | disconnected
  | clientClosed
  | endOfStream
  | unexpectedEnd
  | deadlineExceeded
  | shortWrite
  deriving DecidableEq, Repr, Inhabited

namespace Condition

/-- The more general condition that this one refines, if any. -/
def parent : Condition → Option Condition
  | connectRefused | alreadySubscribed | notSubscribed | subscribeRefused
  | invalidUri | unsupportedScheme => some failed
  | ackTimeout => some readTimeout
  | packetTooLarge => some bufferTooShort
  | stringTooLong | lengthTooLarge | packetIdRequired | invalidWill | passwordWithoutUsername
  | clientIdRequired | topicNameEmpty | invalidQos | noTopicFilters | tooManyTopicFilters
  | emptySubscribeFilter | invalidTopicName | invalidTopicFilter | emptyTopic => some encode
  | trailingBytes | invalidUtf8 | containsNul | lengthMalformed | invalidPacketType
  | invalidPacketFlags | malformedPacket | invalidConnackFlags | invalidConnectFlags
  | invalidSubackCode | invalidSubscribeQos => some decode
  | proxyFailed => some socketConnectFailed
  | textFrame => some readFailed
  | _ => none

/-- The words this condition adds to its parent's text. -/
def ownText : Condition → String
  | connectRefused => "connect refused"
  | ackTimeout => "acknowledgment timeout"
  | packetTooLarge => "packet exceeds maximum size"
  | trailingBytes => "packet body longer than its fields"
  | stringTooLong => "string exceeds 65535 bytes"
  | invalidUtf8 => "invalid UTF-8 string"
  | containsNul => "string contains null character"
  | lengthTooLarge => "remaining length exceeds 268435455"
  | lengthMalformed => "remaining length longer than 4 bytes"
  | invalidPacketType => "invalid packet type"
  | invalidPacketFlags => "invalid packet flags"
  | malformedPacket => "malformed packet"
  | packetIdRequired => "packet identifier required"
  | invalidConnackFlags => "invalid CONNACK flags"
  | invalidConnectFlags => "invalid connect flags"
  | invalidWill => "will topic required when will flag is set"
  | passwordWithoutUsername => "password requires a username"
  | clientIdRequired => "client ID required with clean session false"
  | topicNameEmpty => "topic name cannot be empty"
  | invalidQos => "invalid QoS level"
  | invalidSubackCode => "invalid SUBACK return code"
  | noTopicFilters => "at least one topic filter required"
  | tooManyTopicFilters => "too many topic filters in one packet"
  | invalidSubscribeQos => "invalid requested QoS"
  | emptySubscribeFilter => "empty topic filter"
  | invalidTopicName => "invalid topic name"
  | invalidTopicFilter => "invalid topic filter"
  | emptyTopic => "topic cannot be empty"
  | invalidUri => "invalid broker URI"
  | unsupportedScheme => "unsupported URI scheme"
  | proxyFailed => "proxy tunnel failed"
  | textFrame => "websocket frame is not binary"
  | alreadySubscribed => "topic filter already subscribed"
  | notSubscribed => "topic filter not subscribed"
  | subscribeRefused => "subscription refused by broker"
  | failed => "operation failed"
  | noCapacity => "no capacity left"
  | timedOut => "operation timed out"
  | encode => "encode error"
  | decode => "decode error"
  | sendFailed => "send failed"
  | missingArgument => "required argument is nil or empty"
  | bufferTooShort => "buffer too short"
  | readError => "read error"
  | readFailed => "read failed"
  | readTimeout => "read timeout"
  | peerClosed => "peer closed connection"
  | reconnectFailed => "reconnect failed"
  | socketConnectFailed => "socket connect failed"
  | disconnected => "disconnected"
  | clientClosed => "client closed"
  | endOfStream => "EOF"
  | unexpectedEnd => "unexpected EOF"
  | deadlineExceeded => "context deadline exceeded"
  | shortWrite => "short write"

/-- The full text of a condition: its parent's text, then its own words. -/
def text (c : Condition) : String :=
  match c.parent with
  | some p => p.ownText ++ ": " ++ c.ownText
  | none => c.ownText

/-- The condition followed by the conditions it refines. -/
def lineage (c : Condition) : List Condition :=
  match c.parent with
  | some p => [c, p]
  | none => [c]

/-- The position of a condition in the order from most specific to most general. -/
def rank (c : Condition) : Nat := c.ctorIdx

end Condition

/-- A failure: one or more conditions, with the text that describes it. -/
inductive Failure where
  /-- A condition on its own. -/
  | of (c : Condition)
  /-- A condition with detail text after it. -/
  | detail (c : Condition) (text : String)
  /-- A condition caused by another failure, recognised as both. -/
  | because (c : Condition) (inner : Failure)
  /-- Context text in front of a failure, recognised as the failure. -/
  | within (context : String) (inner : Failure)
  /-- A failure of the environment with no named condition. -/
  | plain (text : String)
  /-- The broker refused the connection with this return code. -/
  | connectRefused (code : UInt8)
  /-- No acknowledgment of this packet kind arrived for the packet after the attempts. -/
  | ackTimeout (expected : UInt8) (packetId : UInt16) (attempts : Int)
  deriving DecidableEq, Repr, Inhabited

namespace Failure

/-- The text of a failure. -/
def message : Failure → String
  | of c => c.text
  | detail c t => c.text ++ ": " ++ t
  | because c inner => c.text ++ ": " ++ inner.message
  | within ctx inner => ctx ++ ": " ++ inner.message
  | plain t => t
  | connectRefused code => "connect refused: " ++ connectReturnText code
  | ackTimeout k id n => s!"no {PacketKind.nameOfCode k} for packet {id} after {n} attempts"

/-- Every condition a failure can be recognised by. -/
def conditions : Failure → List Condition
  | of c => c.lineage
  | detail c _ => c.lineage
  | because c inner => c.lineage ++ inner.conditions
  | within _ inner => inner.conditions
  | plain _ => []
  | connectRefused _ => Condition.connectRefused.lineage
  | ackTimeout .. => Condition.ackTimeout.lineage

/-- The most specific condition of a failure, if it has one. -/
def primary (f : Failure) : Option Condition :=
  f.conditions.foldl (fun best c =>
    match best with
    | some b => if c.rank < b.rank then some c else some b
    | none => some c) none

/-- Whether a failure can be recognised by a condition. -/
def is (f : Failure) (c : Condition) : Bool :=
  f.conditions.contains c

end Failure

end Mqtt
