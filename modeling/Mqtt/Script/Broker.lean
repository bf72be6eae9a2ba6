import Mqtt.Packet.Encode
/-! # A scripted broker

A scripted broker answers each packet a client writes with at most one packet, as a broker
would, following a script: what to do on each CONNECT, which SUBACK return codes to give, which
kinds of answer are switched off and how many answers of a kind to drop. It can also refuse
connections and writes.

On CONNECT the script's plans are used in turn and the last one repeats; without any plan the
connection is accepted. A SUBACK carries, for each requested filter, the next scripted return
code, or the QoS requested once the codes run out. PUBREL is answered with PUBCOMP, PINGREQ
with PINGRESP; a PUBREC from the client is answered with PUBREL only where the script switches
that answer on.
-/

namespace Mqtt

/-- What the broker does on a CONNECT. -/
inductive ConnackPlan where
  /-- Answer with a CONNACK. -/
  | answer (code : UInt8) (sessionPresent : Bool)
  /-- Answer nothing. -/
  | silent
  /-- Close the connection. -/
  | close
  /-- Send these bytes instead of a CONNACK. -/
  | raw (bytes : Bytes)
  deriving DecidableEq, Repr, Inhabited

/-- What the broker does with one packet it reads. -/
inductive BrokerAction where
  | none
  | send (bytes : Bytes)
  | close
  deriving DecidableEq, Repr, Inhabited

/-- The script of a broker. -/
structure BrokerScript where
  connacks : List ConnackPlan := []
  subackCodes : List UInt8 := []
  /-- Answer kinds switched on or off, overriding the defaults. -/
  replies : List (PacketKind × Bool) := []
  /-- How many of the next answers of a kind to drop. -/
  drops : List (PacketKind × Nat) := []
  /-- Whether each coming connection attempt succeeds; once they run out, all do. -/
  dials : List Bool := []
  /-- Whether the client's writes are refused. -/
  failWrites : Bool := false
  deriving Repr, Inhabited

namespace BrokerScript

/-- Whether answers of a kind are sent; all are, except PUBREL, unless the script says. -/
def answers (b : BrokerScript) (k : PacketKind) : Bool :=
  match b.replies.lookup k with
  | some on => on
  | none => k != .pubrel

/-- The next CONNECT plan; the last plan stays for the CONNECTs after it. -/
def nextConnack (b : BrokerScript) : ConnackPlan × BrokerScript :=
  match b.connacks with
  | [] => (.answer 0 false, b)
  | [p] => (p, b)
  | p :: rest => (p, { b with connacks := rest })

/-- The return codes for a SUBSCRIBE, one per requested subscription. -/
def subackFor (b : BrokerScript) : List Subscription → List UInt8 × BrokerScript
  | [] => ([], b)
  | s :: rest =>
    let (c, b') := match b.subackCodes with
      | c :: cs => (c, { b with subackCodes := cs })
      | [] => (s.qos, b)
    let (cs, b'') := b'.subackFor rest
    (c :: cs, b'')

/-- The bytes of an answer. CONNACK and SUBACK are written as given, even with a return code
or flag that a client refuses to read. -/
def frame : Packet → Bytes
  | .connack c => [0x20, 2, if c.sessionPresent then 1 else 0, c.returnCode]
  | .suback s =>
    let body := Field.u16 s.packetId ++ s.returnCodes
    0x90 :: Field.lengthGroups body.length ++ body
  | p => p.encode.bytes

/-- Sends an answer of a kind, unless that kind is switched off or one of it is to be dropped. -/
def emit (b : BrokerScript) (k : PacketKind) (p : Packet) : BrokerAction × BrokerScript :=
  if !b.answers k then (.none, b)
  else
    match b.drops.lookup k with
    | some (n + 1) => (.none, { b with drops := b.drops.map fun (j, m) => if j == k then (j, n) else (j, m) })
    | _ => (.send (frame p), b)

/-- The broker's answer to a packet the client wrote. -/
def respond (b : BrokerScript) : Packet → BrokerAction × BrokerScript
  | .connect _ =>
    let (plan, b') := b.nextConnack
    match plan with
    | .answer code sp => b'.emit .connack (.connack ⟨sp, code⟩)
    | .silent => (.none, b')
    | .close => (.close, b')
    | .raw bytes => (.send bytes, b')
  | .subscribe s =>
    if !b.answers .suback then (.none, b)
    else
      let (codes, b') := b.subackFor s.subscriptions
      b'.emit .suback (.suback ⟨s.packetId, codes⟩)
  | .unsubscribe u => b.emit .unsuback (.unsuback u.packetId)
  | .publish p =>
    if p.qos == 1 then b.emit .puback (.puback p.packetId)
    else if p.qos == 2 then b.emit .pubrec (.pubrec p.packetId)
    else (.none, b)
  | .pubrel i => b.emit .pubcomp (.pubcomp i)
  | .pubrec i => b.emit .pubrel (.pubrel i)
  | .pingreq => b.emit .pingresp .pingresp
  | _ => (.none, b)

/-- Whether the next connection attempt succeeds, and the script after it. -/
def dial (b : BrokerScript) : Bool × BrokerScript :=
  match b.dials with
  | [] => (true, b)
  | d :: rest => (d, { b with dials := rest })

end BrokerScript

end Mqtt
