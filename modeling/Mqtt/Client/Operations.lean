import Mqtt.Client.Connection
/-! # Client operations

The operations a program calls on a client, and the timer cycle.

Starting connects with the blocking connect, starts the reader and subscribes again to every
entry of the subscription table. Stopping writes DISCONNECT, closes the connection and stops
the reader; deleting also empties the tables, and a deleted client refuses everything. A client
that used up its reconnect budget, or whose CONNECT was refused, refuses everything but stopping
and deleting.

Publishing with QoS 1 or 2, subscribing and unsubscribing wait for their acknowledgments: each
wait lasts the operation's timeout, and an unanswered packet is written again (a PUBLISH with
DUP set) until the publish retry budget is used up.

The timer cycle checks the keep-alive, tears down a link whose pings went unanswered, spaces
the reconnect attempts of an unlinked client, and resends PUBREC for held QoS 2 messages.
-/

namespace Mqtt

/-- Marks a PUBLISH as sent before. -/
def Packet.markDup : Packet → Packet
  | .publish p => .publish { p with dup := true }
  | p => p

/-- What the control entry point is given besides its command. -/
inductive ControlArg where
  | none
  | eventHandler
  | eventFunction
  | text (s : String)
  | duration (ms : Int)
  /-- A subscription with a handler for its filter. -/
  | subscription (filter : Bytes) (qos : UInt8)
  /-- A reference to a subscription without handler. -/
  | subscriptionRef (filter : Bytes) (qos : UInt8)
  | nullSubscriptionRef
  deriving DecidableEq, Repr, Inhabited

/-- The type name of a control argument, as an error names it. -/
def ControlArg.typeName : ControlArg → String
  | .none => "<nil>"
  | .eventHandler => "umqtt.EventHandler"
  | .eventFunction => "func(*umqtt.Client, umqtt.Event)"
  | .text _ => "string"
  | .duration _ => "time.Duration"
  | .subscription .. => "umqtt.Subscription"
  | .subscriptionRef .. | .nullSubscriptionRef => "*umqtt.Subscription"

/-- What the control entry point answers. -/
inductive ControlValue where
  | none
  | state (s : ClientState)
  | flag (b : Bool)
  deriving DecidableEq, Repr, Inhabited

namespace Sim

/-- Writes a packet from outside the reader, then lets the reader react to the answer. -/
def writeAndPump (conn : Nat) (p : Packet) : Sim (Except Failure Unit) := do
  let r ← writePacket conn p
  pump
  return r

/-- Writes a packet on the current connection. -/
def send (p : Packet) : Sim (Except Failure Unit) := do
  match (← client).conn with
  | none => return .error (.because .sendFailed (.of .disconnected))
  | some x => writeAndPump x p

/-- The attempts of `sendAndWait` from attempt number `attempt` on; `fuel` attempts are left. -/
def sendAndWaitFrom (expect : PacketKind) (timeout : Int) (dupOnRetry : Bool) (attempts : Int)
    (id : UInt16) : Nat → Nat → Packet → Sim (Except Failure Ack)
  | 0, _, _ => return .error (.ackTimeout expect.code id attempts)
  | fuel + 1, attempt, p => do
    let p ← if attempt > 1 then do
        if let .error e ← usable then return .error e
        let q := if dupOnRetry then p.markDup else p
        countRetry q.kind
        pure q
      else pure p
    if let .error e ← send p then return .error e
    let (found, q) := (← client).acks.take expect id
    modifyClient fun c => { c with acks := q }
    match found with
    | some a =>
      noteTaken a
      countAckWait expect
      return .ok a
    | none =>
      sleep timeout
      log .warn "acknowledgment timeout"
        [("packet_type", .str expect.name), ("packet_id", .int id.toNat), ("attempt", .int attempt)]
      sendAndWaitFrom expect timeout dupOnRetry attempts id fuel (attempt + 1) p

/-- Writes a packet and waits for its acknowledgment of kind `expect`, writing it again until
the publish retry budget is used up. -/
def sendAndWait (p : Packet) (expect : PacketKind) (timeout : Int) (dupOnRetry : Bool) :
    Sim (Except Failure Ack) := do
  let attempts := (← client).options.publishRetries
  sendAndWaitFrom expect timeout dupOnRetry attempts (p.packetId?.getD 0) attempts.toNat 1 p

/-- The next packet identifier. -/
def nextId : Sim UInt16 := do
  let (i, ids) := (← client).ids.next
  modifyClient fun c => { c with ids := ids }
  return i

/-- One SUBSCRIBE and its SUBACK, which must not refuse the filter. -/
def subscribeRemote (e : Subscription.Entry HandlerRef) : Sim (Except Failure Unit) := do
  let id ← nextId
  let timeout := (← client).options.recvTimeout
  match ← sendAndWait (.subscribe ⟨id, [⟨e.filter, e.qos⟩]⟩) .suback timeout false with
  | .error err => return .error err
  | .ok a =>
    if a.codes.head?.any (· != subackFailure) then return .ok ()
    log .warn "subscription refused"
      [("topic", .str e.filter.text), ("qos", .int e.qos.toNat), ("packet_id", .int id.toNat)]
    return .error (.detail .subscribeRefused e.filter.text)

/-- Subscribes again to the given entries in order; the first failure is reported, the others
only logged. -/
def resubscribeEach : List (Subscription.Entry HandlerRef) → Option Failure → Sim (Except Failure Unit)
  | [], none => return .ok ()
  | [], some f => return .error f
  | e :: rest, first => do
    match ← subscribeRemote e with
    | .ok () => resubscribeEach rest first
    | .error err =>
      log .warn "re-subscribe failed" [("topic", .str e.filter.text), ("error", .str err.message)]
      resubscribeEach rest (first.orElse fun _ => some err)

/-- Subscribes again to every entry of the subscription table. -/
def resubscribe : Sim (Except Failure Unit) := do
  resubscribeEach (← client).subs.entries none

/-- Takes one due round of resubscription, if there is one, and says whether there was: a client
still running subscribes again to its table, one that stopped lets the round go. -/
def resubscribeDue : Sim Bool := do
  let c ← client
  if c.resubscribesDue = 0 then return false
  modifyClient fun c => { c with resubscribesDue := c.resubscribesDue - 1 }
  if c.running then
    if let .error e ← resubscribe then
      log .warn "re-subscribe after reconnect failed" [("error", .str e.message)]
  return true

/-- Lets the reader and the due resubscriptions run, one round at a time, until nothing is left
to do; `fuel` bounds the rounds. -/
def settleFor : Nat → Sim Unit
  | 0 => pure ()
  | fuel + 1 => do
    pump
    if ← resubscribeDue then settleFor fuel

/-- Lets everything that was set going run to its end. -/
def settle : Sim Unit := settleFor 1000

/-- Writes DISCONNECT on the current connection, if there is one; a failure is only logged. -/
def sendDisconnect : Sim Unit := do
  if let some x := (← client).conn then
    if let .error e ← writeAndPump x .disconnect then
      log .debug "disconnect not sent" [("error", .str e.message)]

/-- Stops the reader, says goodbye and closes the connection, and returns to idle. -/
def stopRun : Sim Unit := do
  let wasRunning := (← client).running
  modifyClient fun c => { c with readerAlive := false }
  sendDisconnect
  dropConn none
  modifyClient fun c => { c with running := false, readerOn := none }
  setState .idle
  modifyClient fun c => { c with acks := c.acks.drain }
  if wasRunning then log .info "client stopped"

/-- Starts the client. -/
def start : Sim (Except Failure Unit) := do
  let c ← client
  if c.closed then return .error (.of .clientClosed)
  if c.state == .disconnect then return .error (.of .reconnectFailed)
  if c.running && c.state != .idle then return .ok ()
  if c.running then stopRun
  modifyClient fun c => { c with reconnects := 0, linkedOnce := false }
  mark .restored
  setState .linking
  match ← connectBlocking with
  | .error e =>
    dropConn none
    if (← client).state != .disconnect then setState .idle
    return .error e
  | .ok () =>
    modifyClient fun c => { c with running := true, readerAlive := true, readerOn := none }
    log .info "client started" [("remote_addr", ← remoteAddr)]
    pump
    resubscribe

/-- Stops the client. -/
def stop : Sim (Except Failure Unit) := do
  if (← client).closed then return .error (.of .clientClosed)
  stopRun
  return .ok ()

/-- Stops the client for good and empties its tables. -/
def delete : Sim (Except Failure Unit) := do
  if (← client).closed then return .error (.of .clientClosed)
  modifyClient fun c => { c with closed := true }
  stopRun
  modifyClient fun c => { c with subs := c.subs.clear, qos2 := c.qos2.clear }
  return .ok ()

/-- Says goodbye and closes the connection, leaving the client idle but its reader running. -/
def disconnect : Sim (Except Failure Unit) := do
  if (← client).closed then return .error (.of .clientClosed)
  sendDisconnect
  dropConn none
  if (← client).state != .disconnect then setState .idle
  return .ok ()

/-- Stops the reader and leaves everything else running. -/
def stopReader : Sim Unit :=
  modifyClient fun c => if c.running then { c with readerAlive := false } else c

/-- Replaces the keep-alive interval. -/
def setKeepAliveInterval (ms : Int) : Sim (Except Failure Unit) := do
  if ms ≤ 0 then return .error (.of .missingArgument)
  let t ← now
  modifyClient fun c => { c with keepAlive := c.keepAlive.setInterval ms t }
  return .ok ()

/-- The PUBLISH for a message, after the checks every publish makes. -/
def preparePublish (msg : Option Message) : Sim (Except Failure Publish) := do
  let some m := msg | return .error (.of .missingArgument)
  if let .error e ← usable then return .error e
  if let .error e := Topic.validateName m.topic then return .error e
  if m.qos > 2 then return .error (.of .invalidQos)
  return .ok { topic := m.topic, payload := m.payload, qos := m.qos, retain := m.retain }

/-- The exchanges of a publish with QoS 1 or 2, under the next packet identifier: PUBLISH until
PUBACK; or PUBLISH until PUBREC, then PUBREL until PUBCOMP. -/
def publishAcked (p : Publish) (timeout : Int) : Sim (Except Failure Unit) := do
  let id ← nextId
  let p := { p with packetId := id }
  if p.qos == 1 then
    return (← sendAndWait (.publish p) .puback timeout true).map fun _ => ()
  match ← sendAndWait (.publish p) .pubrec timeout true with
  | .error e => return .error e
  | .ok _ => return (← sendAndWait (.pubrel id) .pubcomp timeout false).map fun _ => ()

/-- Publishes a message and waits for its acknowledgments, each for `timeout` milliseconds
(the receive timeout when zero or less). A rate-limited client first waits for a token. -/
def publish (msg : Option Message) (timeout : Int) : Sim (Except Failure Unit) := do
  match ← preparePublish msg with
  | .error e => return .error e
  | .ok p =>
    let c ← client
    let timeout := if timeout ≤ 0 then c.options.recvTimeout else timeout
    if c.flow.limited then
      let t ← now
      let (ok, waitNs, b) := c.flow.reserve (t * 1000000) (some (timeout * 1000000))
      if !ok then
        return .error (.detail .timedOut "publish rate limit: rate: Wait(n=1) would exceed context deadline")
      modifyClient fun c => { c with flow := b }
      sleep ((waitNs + 999999) / 1000000)
    if p.qos == 0 then return ← send (.publish p)
    publishAcked p timeout

/-- Publishes a message without waiting; a rate-limited client without a token refuses. -/
def publishAsync (msg : Option Message) : Sim (Except Failure Unit) := do
  match ← preparePublish msg with
  | .error e => return .error e
  | .ok p =>
    let c ← client
    if c.flow.limited then
      let t ← now
      let (ok, b) := c.flow.allow (t * 1000000)
      if !ok then return .error (.detail .noCapacity "publish rate exceeded")
      modifyClient fun c => { c with flow := b }
    let p ← if p.qos > 0 then pure { p with packetId := ← nextId } else pure p
    send (.publish p)

/-- Subscribes to a filter and, once the broker grants it, adds it to the table. -/
def subscribe (filter : Bytes) (qos : UInt8) (handler : Option HandlerRef) :
    Sim (Except Failure Unit) := do
  if let .error e ← usable then return .error e
  if let .error e := Topic.validateFilter filter then return .error e
  if qos > 2 then return .error (.of .invalidSubscribeQos)
  let c ← client
  if c.subs.contains filter then return .error (.of .alreadySubscribed)
  if c.subs.entries.length ≥ c.subs.capacity then return .error (.of .noCapacity)
  let e : Subscription.Entry HandlerRef := { filter, qos, handler }
  if let .error err ← subscribeRemote e then return .error err
  match (← client).subs.add e with
  | .error err => return .error err
  | .ok (_, t) =>
    modifyClient fun c => { c with subs := t }
    return .ok ()

/-- Unsubscribes from a filter and, once the broker acknowledges it, removes it from the
table. -/
def unsubscribe (filter : Bytes) : Sim (Except Failure Unit) := do
  if let .error e ← usable then return .error e
  if filter.isEmpty then return .error (.of .missingArgument)
  if !(← client).subs.contains filter then return .error (.of .notSubscribed)
  let id ← nextId
  let timeout := (← client).options.recvTimeout
  if let .error e ← sendAndWait (.unsubscribe ⟨id, [filter]⟩) .unsuback timeout false then
    return .error e
  modifyClient fun c => { c with subs := (c.subs.remove filter).2 }
  return .ok ()

/-- The failure of a control command given an argument of the wrong type. -/
def badArgument (cmd : Int) (arg : ControlArg) : Failure :=
  .detail .missingArgument s!"{commandName cmd} does not accept {arg.typeName}"

/-- Carries out a control command. -/
def control (cmd : Int) (arg : ControlArg) : Sim (Except Failure ControlValue) := do
  if (← client).closed then return .error (.of .clientClosed)
  match cmd with
  | 1 =>
    match arg with
    | .eventHandler | .eventFunction =>
      modifyClient fun c => { c with reportsEvents := true }
      return .ok .none
    | .none =>
      modifyClient fun c => { c with reportsEvents := false }
      return .ok .none
    | a => return .error (badArgument cmd a)
  | 2 =>
    let entry : Option (Subscription.Entry HandlerRef) := match arg with
      | .subscription f q => some { filter := f, qos := q, handler := some (.subscription f) }
      | .subscriptionRef f q => some { filter := f, qos := q }
      | _ => none
    match arg, entry with
    | .nullSubscriptionRef, _ => return .error (.of .missingArgument)
    | _, some e =>
      if let .error err := Topic.validateFilter e.filter then return .error err
      match (← client).subs.add e with
      | .error err => return .error err
      | .ok (b, t) =>
        modifyClient fun c => { c with subs := t }
        return .ok (.flag b)
    | a, none => return .error (badArgument cmd a)
  | 3 =>
    match arg with
    | .duration ms => return (← setKeepAliveInterval ms).map fun _ => .none
    | a => return .error (badArgument cmd a)
  | 4 => return .ok (.state (← client).state)
  | 5 =>
    stopReader
    return .ok .none
  | 6 => return (← disconnect).map fun _ => .none
  | _ => return .error (.detail .failed s!"unknown command {cmd}")

/-- The keep-alive part of a timer cycle at time `t`. -/
def keepAliveTick (t : Int) : Sim Unit := do
  let c ← client
  if c.state != .linked then return
  let (action, ka) := c.keepAlive.check t
  modifyClient fun c => { c with keepAlive := ka }
  match action with
  | .expired =>
    setState .unlink
    log .warn "keepalive expired" [("attempt", .int ka.count)]
  | .ping =>
    let some x := c.conn | return
    match ← writeAndPump x .pingreq with
    | .error e => log .debug "ping not sent" [("error", .str e.message)]
    | .ok () => emit .heartbeat
  | .idle => pure ()

/-- The reconnect part of a timer cycle at time `t`; says whether the client gave up. -/
def reconnectTick (t : Int) : Sim Bool := do
  let c ← client
  match c.state with
  | .unlink =>
    modifyClient fun c => { c with conn := none, nextReconnect := some t }
    setState .unlinkLinking
    emit .offline
    if let some x := c.conn then closeLink x
    return false
  | .unlinkLinking =>
    if Instant.before (some t) c.nextReconnect then return false
    if let some x := c.conn then
      modifyClient fun c => { c with conn := none }
      closeLink x
      return false
    if c.reconnects ≥ c.options.reconnectMax then
      setState .disconnect
      mark .exhausted
      log .error "reconnect budget exhausted" [("attempt", .int c.options.reconnectMax)]
      return true
    modifyClient fun c => { c with keepAlive := { c.keepAlive with count := 0 },
                                   nextReconnect := some (t + c.options.reconnectInterval) }
    countReconnect
    if let .error e ← connectOnce then
      log .warn "reconnect attempt failed" [("remote_addr", ← remoteAddr), ("error", .str e.message)]
    pump
    emit .link
    return false
  | .disconnect => return true
  | _ => return false

/-- The tracker's share of the QoS 2 timer cycle at time `t`: held messages due for a resend
use one up, those out of resends are dropped and logged. Gives the identifiers due for PUBREC. -/
def qos2Cycle (t : Int) : Sim (List UInt16) := do
  let (cycle, q) := (← client).qos2.retryCycle t
  modifyClient fun c => { c with qos2 := q }
  if !cycle.dropped.isEmpty then
    countDropped cycle.dropped.length
    for m in cycle.dropped do
      log .warn "QoS 2 message dropped, no PUBREL" [("packet_id", .int m.packetId.toNat), ("topic", .str m.topic.text)]
  return cycle.resend

/-- The QoS 2 part of a timer cycle at time `t`: the tracker's cycle, then PUBREC again for
each identifier due, with the reader running after each. -/
def qos2Tick (t : Int) : Sim Unit := do
  let resend ← qos2Cycle t
  if resend.isEmpty then return
  let some x := (← client).conn | return
  for i in resend do
    reply x (.pubrec i)
    pump

/-- One timer cycle at time `t`; says whether the client gave up. -/
def tick (t : Int) : Sim Bool := do
  keepAliveTick t
  if ← reconnectTick t then return true
  qos2Tick t
  return false

end Sim

end Mqtt
