import Mqtt.Client.World
/-! # Connecting and reading

How a client gets a connection to its broker and what it does with the packets that arrive.

A connection attempt dials and writes CONNECT; it uses one unit of the reconnect budget. A
blocking connect also reads the CONNACK and tries again after the reconnect delay until the
budget is used up; a refused CONNECT and a CONNACK that never comes end it at once. An accepted
CONNACK links the client and restores the budget; if the broker kept no session for a client
that was linked before, the subscriptions are due to be sent again, once for every such
CONNACK.

The reader reads the current connection packet by packet. It skips a packet too large for its
buffer and a packet that does not decode, and keeps the connection. A read that times out before
any byte of a packet arrived leaves it waiting; any other failure loses the connection: a linked
client then reconnects by itself, after the reconnect delay.
-/

namespace Mqtt

namespace Sim

/-- Handles a CONNACK: a refusal gives the client up and closes the connection; an acceptance
links it. -/
def handleConnack (p : Connack) : Sim (Except Failure Unit) := do
  noteConnack p
  if p.returnCode != 0 then
    let err := Failure.connectRefused p.returnCode
    setState .disconnect
    dropConn none
    log .error "connection refused" [("return_code", .int p.returnCode.toNat), ("error", .str err.message)]
    return .error err
  let t ← now
  setState .linked
  let c ← client
  let relink := c.linkedOnce && !p.sessionPresent && c.running
  modifyClient fun c => { c with keepAlive := c.keepAlive.reset t, reconnects := 0, linkedOnce := true,
                                 resubscribesDue := c.resubscribesDue + if relink then 1 else 0 }
  mark .restored
  log .info "connected" [("remote_addr", ← remoteAddr), ("session_present", .bool p.sessionPresent)]
  emit .online
  return .ok ()

/-- Reads the first packet of a new connection, which must be an accepted CONNACK. -/
def awaitConnack (conn : Nat) : Sim (Except Failure Unit) := do
  let timeout := (← client).options.connectTimeout
  match ← readPacket conn timeout with
  | .idle =>
    sleep timeout
    return .error (.detail .timedOut s!"no CONNACK within {Duration.text timeout}")
  | .failed e => return .error e
  | .packet p =>
    let t ← now
    modifyClient fun c => { c with keepAlive := c.keepAlive.received t }
    match p with
    | .connack a => handleConnack a
    | q => return .error (.detail .readError s!"expected CONNACK, got {q.kind.name}")

/-- One connection attempt: dial, write CONNECT, and make the new connection the current one.
It does not wait for the CONNACK. -/
def connectOnce : Sim (Except Failure Nat) := do
  modifyClient fun c => { c with reconnects := c.reconnects + 1 }
  mark .spent
  let c ← client
  log .debug "connecting" [("remote_addr", ← remoteAddr), ("attempt", .int c.reconnects)]
  let w ← get
  let (conn, net) := w.net.dial
  set { w with net := net }
  record fun t => { t with dialed := t.dialed ++ [(c.endpoint.address, conn.isSome)] }
  match conn with
  | none => return .error (.because .socketConnectFailed dialRefused)
  | some x =>
    match ← writePacket x (.connect c.options.connectPacket) with
    | .error e =>
      closeLink x
      return .error e
    | .ok () =>
      let old := (← client).conn
      modifyClient fun c => { c with conn := some x }
      if let some o := old then
        if o != x then closeLink o
      return .ok x

/-- Connects and waits for the CONNACK, trying again after the reconnect delay until the
budget is used up; `fuel` bounds the attempts. -/
def connectBlockingLoop (lastErr : Option Failure) : Nat → Sim (Except Failure Unit)
  | 0 => return .error (.of .reconnectFailed)
  | fuel + 1 => do
    let c ← client
    if c.reconnects ≥ c.options.reconnectMax then
      setState .disconnect
      mark .exhausted
      log .error "reconnect budget exhausted" [("attempt", .int c.options.reconnectMax)]
      return .error (match lastErr with
        | some e => .because .reconnectFailed e
        | none => .of .reconnectFailed)
    let err ← match ← connectOnce with
      | .error e => pure e
      | .ok conn =>
        match ← awaitConnack conn with
        | .ok () => return .ok ()
        | .error e =>
          if e.is .connectRefused then return .error e
          dropConn (some conn)
          if e.is .timedOut then return .error e
          pure e
    log .warn "connect attempt failed" [("remote_addr", ← remoteAddr), ("error", .str err.message)]
    sleep (← client).options.reconnectDelay
    connectBlockingLoop (some err) fuel

/-- Connects and waits for the CONNACK within the reconnect budget. -/
def connectBlocking : Sim (Except Failure Unit) := do
  let c ← client
  connectBlockingLoop none (c.options.reconnectMax - c.reconnects).toNat.succ

/-- Hands a message to the handlers of the matching subscriptions. -/
def dispatch (m : Message) : Sim Unit := do
  let (n, hs) := (← client).subs.dispatch m
  record fun t => { t with deliveries := t.deliveries ++ hs.map fun h => (h, m) }
  if n == 0 then log .debug "no subscription for message" [("topic", .str m.topic.text)]

/-- Writes an answer on a connection; a failure shows up on the next read. -/
def reply (conn : Nat) (p : Packet) : Sim Unit := do
  if let .error e ← writePacket conn p then
    log .debug "reply not sent" [("packet_type", .str p.kind.name), ("error", .str e.message)]

/-- Queues an acknowledgment for the operation waiting for it. -/
def pushAck (a : Ack) : Sim Unit := do
  let (ok, q) := (← client).acks.push a
  modifyClient fun c => { c with acks := q }
  if !ok then
    log .warn "ack queue full, acknowledgment dropped"
      [("packet_type", .str a.kind.name), ("packet_id", .int a.packetId.toNat)]

/-- Handles a PUBLISH: QoS 0 and 1 are handed out at once, QoS 1 acknowledged with PUBACK;
QoS 2 is held until its PUBREL and acknowledged with PUBREC. -/
def handlePublish (conn : Nat) (p : Publish) : Sim Unit := do
  let m := p.toMessage
  if p.qos == 2 then
    match (← client).qos2.track p.packetId (some m) (← now) with
    | .ok q => modifyClient fun c => { c with qos2 := q }
    | .error e =>
      log .warn "QoS 2 queue full, message not tracked"
        [("packet_id", .int p.packetId.toNat), ("topic", .str p.topic.text), ("error", .str e.message)]
    reply conn (.pubrec p.packetId)
  else
    dispatch m
    if p.qos == 1 then reply conn (.puback p.packetId)

/-- Handles one packet read on a connection. -/
def handlePacket (conn : Nat) (p : Packet) : Sim Unit := do
  let t ← now
  modifyClient fun c => { c with keepAlive := c.keepAlive.received t }
  match p with
  | .connack a => let _ ← handleConnack a
  | .publish q => handlePublish conn q
  | .pubrel i =>
    let (m, q) := (← client).qos2.release i
    modifyClient fun c => { c with qos2 := q }
    if let some msg := m then dispatch msg
    reply conn (.pubcomp i)
  | .puback i => pushAck ⟨.puback, i, []⟩
  | .pubrec i => pushAck ⟨.pubrec, i, []⟩
  | .pubcomp i => pushAck ⟨.pubcomp, i, []⟩
  | .suback s => pushAck ⟨.suback, s.packetId, s.returnCodes⟩
  | .unsuback i => pushAck ⟨.unsuback, i, []⟩
  | .pingresp => pure ()
  | q => log .warn "unexpected packet" [("packet_type", .str q.kind.name), ("error", .str (Failure.of .readError).message)]

/-- Reacts to the loss of a connection and says whether the reader must stop. A linked client
reconnects after the reconnect delay; one whose CONNACK does not come waits for the timer. -/
def handleFin (conn : Nat) : Sim Bool := do
  let c ← client
  if c.conn != some conn then return false
  modifyClient fun c => { c with conn := none }
  let linked := c.state == .linked
  if linked then setState .linking
  closeLink conn
  if !linked then return (← client).state == .disconnect
  log .warn "connection closed by peer, reconnecting" [("remote_addr", ← remoteAddr)]
  sleep (← client).options.reconnectDelay
  countReconnect
  match ← connectBlocking with
  | .ok () => return false
  | .error e =>
    if e.is .timedOut then
      setState .unlinkLinking
      let t ← now
      modifyClient fun c => { c with nextReconnect := some (t + c.options.reconnectInterval) }
      return false
    log .error "reconnect failed" [("error", .str e.message)]
    return (← client).state == .disconnect

/-- What one turn of the reader did. -/
inductive ReaderTurn where
  | blocked
  | progressed
  deriving DecidableEq, Repr, Inhabited

/-- One turn of the reader: it reads the current connection, or first finishes a read on a
connection that was closed under it. -/
def readerTurn : Sim ReaderTurn := do
  let c ← client
  if !c.running || !c.readerAlive then return .blocked
  let net := (← get).net
  let target := match c.readerOn with
    | some x => if (net.get? x).any Link.closedByClient then some x else c.conn
    | none => c.conn
  match target with
  | none =>
    modifyClient fun c => { c with readerOn := none }
    return .blocked
  | some x =>
    modifyClient fun c => { c with readerOn := some x }
    match ← readPacket x c.options.recvTimeout with
    | .idle => return .blocked
    | .packet p =>
      handlePacket x p
      if (← client).state == ClientState.disconnect then modifyClient fun c => { c with readerAlive := false }
      return .progressed
    | .failed e =>
      if e.is .bufferTooShort then
        log .warn "oversize packet discarded" [("error", .str e.message)]
      else if e.is .decode then
        log .warn "undecodable packet discarded" [("error", .str e.message)]
      else
        log .debug "connection lost" [("error", .str e.message)]
        modifyClient fun c => { c with readerOn := none }
        if ← handleFin x then modifyClient fun c => { c with readerAlive := false }
      return .progressed

/-- Lets the reader run until it waits; `fuel` bounds its turns. -/
def pumpFor : Nat → Sim Unit
  | 0 => pure ()
  | fuel + 1 => do
    match ← readerTurn with
    | .blocked => pure ()
    | .progressed => pumpFor fuel

/-- Lets the reader run until it waits. -/
def pump : Sim Unit := pumpFor 100000

end Sim

end Mqtt
