/-! # Packet kinds and return codes

The fourteen kinds of control packet, numbered 1 to 14 in the high nibble of a packet's first
byte, and the return codes a broker sends in CONNACK and SUBACK packets.
-/

namespace Mqtt

/-- The fourteen kinds of control packet. -/
inductive PacketKind where
  | connect
  | connack
  | publish
  | puback
  | pubrec
  | pubrel
  | pubcomp
  | subscribe
  | suback
  | unsubscribe
  | unsuback
  | pingreq
  | pingresp
  | disconnect
  deriving DecidableEq, Repr, Inhabited

namespace PacketKind

/-- Every kind, in the order of its code. -/
def all : List PacketKind :=
  [connect, connack, publish, puback, pubrec, pubrel, pubcomp, subscribe, suback, unsubscribe,
   unsuback, pingreq, pingresp, disconnect]

/-- The code of a kind, from 1 for CONNECT to 14 for DISCONNECT. -/
def code : PacketKind → UInt8
  | connect => 1
  | connack => 2
  | publish => 3
  | puback => 4
  | pubrec => 5
  | pubrel => 6
  | pubcomp => 7
  | subscribe => 8
  | suback => 9
  | unsubscribe => 10
  | unsuback => 11
  | pingreq => 12
  | pingresp => 13
  | disconnect => 14

/-- The kind with a given code; codes 0 and 15 and above name none. -/
def ofCode? (c : UInt8) : Option PacketKind :=
  all.find? (·.code == c)

/-- The name of a kind, as the specification writes it. -/
def name : PacketKind → String
  | connect => "CONNECT"
  | connack => "CONNACK"
  | publish => "PUBLISH"
  | puback => "PUBACK"
  | pubrec => "PUBREC"
  | pubrel => "PUBREL"
  | pubcomp => "PUBCOMP"
  | subscribe => "SUBSCRIBE"
  | suback => "SUBACK"
  | unsubscribe => "UNSUBSCRIBE"
  | unsuback => "UNSUBACK"
  | pingreq => "PINGREQ"
  | pingresp => "PINGRESP"
  | disconnect => "DISCONNECT"

/-- The kind with a given name. -/
def ofName? (s : String) : Option PacketKind :=
  all.find? (·.name == s)

/-- The name of the kind with a code, or `UNKNOWN` for a code that names no kind. -/
def nameOfCode (c : UInt8) : String :=
  match ofCode? c with
  | some k => k.name
  | none => "UNKNOWN"

/-- The flags nibble that the specification fixes for a kind; PUBLISH carries its own. -/
def reservedFlags : PacketKind → UInt8
  | pubrel | subscribe | unsubscribe => 2
  | _ => 0

theorem ofCode?_code (k : PacketKind) : ofCode? k.code = some k := by
  cases k <;> rfl

end PacketKind

/-- The text of a CONNACK return code. -/
def connectReturnText : UInt8 → String
  | 0 => "connection accepted"
  | 1 => "unacceptable protocol version"
  | 2 => "identifier rejected"
  | 3 => "server unavailable"
  | 4 => "bad user name or password"
  | 5 => "not authorized"
  | _ => "unknown return code"

/-- A SUBACK return code is a granted QoS of 0, 1 or 2, or the failure code 0x80. -/
def subackCodeValid (c : UInt8) : Bool :=
  c ≤ 2 || c == 0x80

/-- The SUBACK return code that reports a refused subscription. -/
def subackFailure : UInt8 := 0x80

end Mqtt
