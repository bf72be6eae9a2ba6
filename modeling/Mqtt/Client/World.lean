import Mqtt.Client.Options
import Mqtt.Client.Event
import Mqtt.Client.Dialer
import Mqtt.Script.Network
import Mqtt.Stream
import Mqtt.Session.KeepAlive
import Mqtt.Session.Flow
import Mqtt.Session.PacketIds
import Mqtt.Metrics.Store
import Mqtt.Log.Logger
import Mqtt.Text.Duration
/-! # A client and its world

A client holds its settings, the state of its link to the broker, its tables and queues, its
log and its metrics. It lives in a world with a clock (in milliseconds), the connections to a
scripted broker, and a trace of what could be observed: the packets written, the messages handed
to handlers, the events reported, the connection attempts and the log records. The trace also
keeps the ledger of the reconnect budget: where an attempt used a unit of it, where a start or an
accepted CONNACK gave it back, and where the client gave up for want of it; the
acknowledgments that operations waiting for one took from the queue; and the CONNACKs the client
handled.

Everything a client does is an action on the world. This module holds the small actions the
others are built from: logging, metrics, state changes, and writing and reading one packet.
-/

namespace Mqtt

/-- Who receives the messages of a subscription: the will's own handler, or the handler of a
subscription made for a filter. -/
inductive HandlerRef where
  | will
  | subscription (filter : Bytes)
  deriving DecidableEq, Repr, Inhabited

/-- Text from bytes, empty where they are not UTF-8. -/
def Bytes.text (b : Bytes) : String := (Bytes.toString? b).getD ""

/-- A client. -/
structure Client where
  options : ClientOptions
  endpoint : Endpoint
  codec : Codec
  /-- The size of the buffer packets are read into: the setting, which the filled settings keep
  positive. -/
  recvCap : ReadBuffer
  state : ClientState := .idle
  /-- The current connection. -/
  conn : Option Nat := none
  keepAlive : KeepAlive
  nextReconnect : Instant := none
  /-- Connection attempts since the last accepted CONNACK or start. -/
  reconnects : Int := 0
  linkedOnce : Bool := false
  /-- Whether lifecycle events are reported. -/
  reportsEvents : Bool
  /-- Whether the client was started and not stopped since. -/
  running : Bool := false
  /-- Whether the reader still reads. -/
  readerAlive : Bool := false
  /-- The connection the reader waits on, if it waits on one. -/
  readerOn : Option Nat := none
  /-- Whether the client was deleted. -/
  closed : Bool := false
  subs : SubscriptionTable HandlerRef
  qos2 : ExactlyOnce
  acks : AckQueue
  ids : PacketIds := {}
  flow : TokenBucket
  logger : Logger
  metrics : Option MetricStore
  /-- How many times the subscriptions are due to be sent again: once for every CONNACK without
  a session that relinked a running client. -/
  resubscribesDue : Nat := 0
  deriving Repr, Inhabited

namespace Client

/-- The size of the buffer packets are written into. -/
def sendCap (c : Client) : Nat := c.options.sendBufferSize.toNat

/-- The labels of the client's series. -/
def labels (c : Client) : Labels := [("client_id", c.options.clientId.text)]

/-- The labels of the client's series for one kind of packet. -/
def packetLabels (c : Client) (k : PacketKind) : Labels :=
  [("client_id", c.options.clientId.text), ("packet_type", k.name)]

/-- A client for a broker endpoint with resolved settings, not yet started. A will is checked,
and its topic subscribed with the will's QoS, handled by the will's handler if there is one. -/
def create (ep : Endpoint) (o : ClientOptions) (recv : 0 < o.recvBufferSize) :
    Except Failure Client := do
  let logger := match o.logLevel with
    | some l => (Logger.atLevel l).withAttrs [("client_id", .str o.clientId.text)]
    | none => Logger.silent
  let c : Client := {
    options := o, endpoint := ep
    codec := { protocolName := o.protocolName, protocolLevel := o.protocolLevel,
               maxTopicFilters := o.maxTopicFilters }
    recvCap := ⟨o.recvBufferSize.toNat, by omega⟩
    keepAlive := { interval := o.keepAliveInterval, connectKeepAlive := o.connectKeepAlive,
                   sendTimeout := o.sendTimeout, max := o.keepAliveMax }
    reportsEvents := o.onEvent
    subs := SubscriptionTable.create o.maxSubscriptions
    qos2 := ExactlyOnce.create o.qos2QueueSize o.publishRetries o.pubrecInterval
    acks := AckQueue.create o.ackQueueSize
    flow := TokenBucket.create o.publishRate o.publishBurst
    logger
    metrics := if o.metrics then some {} else none }
  let c ← match o.will with
    | none => pure c
    | some w =>
      match w.validate with
      | .error e => throw (.within "invalid will" e)
      | .ok () =>
        match c.subs.add { filter := w.topic, qos := w.qos, handler := if o.willHandler then some .will else none } with
        | .error e => throw (.within "register will subscription" e)
        | .ok (_, t) => pure { c with subs := t }
  let key := labelsKey "umqtt_state" c.labels
  return { c with metrics := c.metrics.map (·.gaugeSet key 0) }

end Client

/-- A mark in the ledger of the reconnect budget. -/
inductive BudgetMark where
  /-- A connection attempt used one unit. -/
  | spent
  /-- A start or an accepted CONNACK gave the whole budget back. -/
  | restored
  /-- The client gave up with the budget used up. -/
  | exhausted
  deriving DecidableEq, Repr, Inhabited

/-- What could be observed while a world ran. -/
structure Trace where
  sent : List Written := []
  deliveries : List (HandlerRef × Message) := []
  events : List ClientEvent := []
  /-- Connection attempts: the address and whether it succeeded. -/
  dialed : List (Bytes × Bool) := []
  logs : List LogRecord := []
  /-- The ledger of the reconnect budget, in the order its marks were made. -/
  budget : List BudgetMark := []
  /-- The acknowledgments that waiting operations took from the queue, in the order taken. -/
  taken : List Ack := []
  /-- The CONNACKs the client handled, in the order handled. -/
  connacks : List Connack := []
  deriving Repr, Inhabited

/-- A client in its world. -/
structure World where
  client : Client
  net : Network
  /-- The time, in milliseconds. -/
  clock : Int := 0
  trace : Trace := {}
  deriving Repr, Inhabited

/-- An action on a world. -/
abbrev Sim := StateM World

namespace Sim

/-- The client. -/
def client : Sim Client := return (← get).client

/-- Changes the client. -/
def modifyClient (f : Client → Client) : Sim Unit :=
  modify fun w => { w with client := f w.client }

/-- Changes the trace. -/
def record (f : Trace → Trace) : Sim Unit :=
  modify fun w => { w with trace := f w.trace }

/-- Adds a mark to the ledger of the reconnect budget. -/
def mark (m : BudgetMark) : Sim Unit :=
  record fun t => { t with budget := t.budget ++ [m] }

/-- Notes an acknowledgment that a waiting operation took from the queue. -/
def noteTaken (a : Ack) : Sim Unit :=
  record fun t => { t with taken := t.taken ++ [a] }

/-- Notes a CONNACK the client handles. -/
def noteConnack (p : Connack) : Sim Unit :=
  record fun t => { t with connacks := t.connacks ++ [p] }

/-- Changes the network. -/
def modifyNet (f : Network → Network) : Sim Unit :=
  modify fun w => { w with net := f w.net }

/-- The time. -/
def now : Sim Int := return (← get).clock

/-- Lets time pass. -/
def sleep (ms : Int) : Sim Unit :=
  modify fun w => { w with clock := w.clock + max ms 0 }

/-- Writes a log record, if the client's log lets it through. -/
def log (l : LogLevel) (msg : String) (attrs : Doc.Fields := []) : Sim Unit := do
  match (← client).logger.record l msg attrs with
  | some r => record fun t => { t with logs := t.logs ++ [r] }
  | none => pure ()

/-- Updates the client's metrics, if it keeps any. -/
def metric (f : Client → MetricStore → MetricStore) : Sim Unit :=
  modifyClient fun c => { c with metrics := c.metrics.map (f c) }

/-- Counts a packet written and its bytes. -/
def packetSent (k : PacketKind) (n : Nat) : Sim Unit :=
  metric fun c m =>
    (m.counterAdd (labelsKey "umqtt_packets_sent_total" (c.packetLabels k)) 1).counterAdd
      (labelsKey "umqtt_bytes_sent_total" c.labels) n.toFloat

/-- Counts a packet read and its bytes. -/
def packetReceived (k : PacketKind) (n : Nat) : Sim Unit :=
  metric fun c m =>
    (m.counterAdd (labelsKey "umqtt_packets_received_total" (c.packetLabels k)) 1).counterAdd
      (labelsKey "umqtt_bytes_received_total" c.labels) n.toFloat

/-- Counts a connection attempt after the first. -/
def countReconnect : Sim Unit :=
  metric fun c m => m.counterAdd (labelsKey "umqtt_reconnects_total" c.labels) 1

/-- Counts a packet sent again. -/
def countRetry (k : PacketKind) : Sim Unit :=
  metric fun c m => m.counterAdd (labelsKey "umqtt_publish_retries_total" (c.packetLabels k)) 1

/-- Counts QoS 2 messages dropped without release. -/
def countDropped (n : Nat) : Sim Unit :=
  metric fun c m => m.counterAdd (labelsKey "umqtt_qos2_dropped_total" c.labels) n.toFloat

/-- Records an acknowledgment that arrived in time. -/
def countAckWait (k : PacketKind) : Sim Unit :=
  metric fun c m => m.observe (labelsKey "umqtt_ack_wait_seconds" (c.packetLabels k)) 0

/-- Moves to a state; the log and the state gauge follow every change. -/
def setState (s : ClientState) : Sim Unit := do
  let c ← client
  if c.state == s then return
  log .debug "state change" [("state", .str s.name), ("previous", .str c.state.name)]
  modifyClient fun c => { c with state := s }
  metric fun c m => m.gaugeSet (labelsKey "umqtt_state" c.labels) s.number.toFloat

/-- Reports an event, if events are reported. -/
def emit (e : ClientEvent) : Sim Unit := do
  if (← client).reportsEvents then record fun t => { t with events := t.events ++ [e] }

/-- The remote address as logged: the broker URI. -/
def remoteAddr : Sim Doc := return .str (← client).endpoint.raw

/-- Closes a connection from the client's side. -/
def closeLink (id : Nat) : Sim Unit := modifyNet (·.closeByClient id)

/-- Closes a connection and forgets it if it is the current one; without a connection named,
the current one. -/
def dropConn (target : Option Nat) : Sim Unit := do
  let c ← client
  let conn := target.orElse fun _ => c.conn
  if c.conn == conn then modifyClient fun c => { c with conn := none }
  if let some x := conn then closeLink x

/-- Writes a packet on a connection: encoded into the send buffer, then handed to the network.
The keep-alive notes the write, a PINGREQ as a ping. -/
def writePacket (conn : Nat) (p : Packet) : Sim (Except Failure Unit) := do
  let c ← client
  match c.codec.encode c.sendCap (some p) with
  | .error e => return .error e
  | .ok bytes =>
    let w ← get
    let (written, r, net) := w.net.write conn bytes
    set { w with net := net }
    if let some x := written then record fun t => { t with sent := t.sent ++ [x] }
    match r with
    | .error e => return .error (.because .sendFailed e)
    | .ok () =>
      let t ← now
      modifyClient fun c =>
        { c with keepAlive := if p.kind == .pingreq then c.keepAlive.pinged t else c.keepAlive.sent t }
      packetSent p.kind bytes.length
      return .ok ()

/-- How reading one packet from a connection ended. -/
inductive ReadOutcome where
  | packet (p : Packet)
  /-- Nothing arrived and the connection is open: the read waits. -/
  | idle
  | failed (f : Failure)
  deriving Repr, Inhabited

/-- The failure of a read cut off by the closing of the connection. -/
def finFailure (e : Failure) : Failure := .because .peerClosed e

/-- The failure of a read whose deadline passed in the middle of a packet. -/
def midPacketTimeout : Failure := .because .readFailed (.plain "i/o timeout")

/-- Reads one packet from a connection into the receive buffer. A packet larger than the buffer
is skipped, a packet whose body does not decode is consumed; a packet cut short waits for the
rest until the deadline `timeout` milliseconds away, unless the broker closed the connection.
A connection the client closed reads nothing. -/
def readPacket (conn : Nat) (timeout : Int) : Sim ReadOutcome := do
  let c ← client
  let some link := (← get).net.get? conn | return .failed (finFailure closedConnection)
  if link.closedByClient then return .failed (finFailure closedConnection)
  let r := StreamRead.packetInto link.inbound c.recvCap
  -- the connection gives up every byte the read went through; the size the read reports counts
  -- the remaining length in its shortest spelling and may be smaller
  modifyNet (·.consume conn (link.inbound.length - r.rest.length))
  match r.result with
  | .ok p =>
    packetReceived p.kind r.used
    return .packet p
  | .error e =>
    if e.is .endOfStream || e.is .unexpectedEnd then
      if link.closedByBroker then return .failed (finFailure e)
      else if r.used == 0 then return .idle
      else
        sleep timeout
        return .failed midPacketTimeout
    else return .failed e

/-- The current connection. -/
def currentConn : Sim (Option Nat) := return (← client).conn

/-- Whether the client may be used: not deleted, and not given up. -/
def usable : Sim (Except Failure Unit) := do
  let c ← client
  if c.closed then return .error (.of .clientClosed)
  if c.state == .disconnect then return .error (.of .reconnectFailed)
  return .ok ()

end Sim

end Mqtt
