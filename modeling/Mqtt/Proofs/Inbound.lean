import Mqtt.Proofs.HeldMessages
import Mqtt.Proofs.RoundTrip
import Mqtt.Client.Operations
/-! # What a running client does with the packets it reads

The reader hands each packet it reads to `handlePacket`. What that does to the parts of the world
the exchange with the broker shows (held QoS 2 messages, queued acknowledgments, subscriptions,
messages handed to handlers, packets written) is `InboundView.receive`
(`Sim.handlePacket_inbound`): a QoS 0 or 1 message goes to the matching handlers at once and a
QoS 1 message is answered with PUBACK; a QoS 2 message is held and answered with PUBREC; a
PUBREL hands the held message out and is answered with PUBCOMP; acknowledgments go to the ack
queue with their kind and identifier. An answer reaches the broker as the packet itself when
the connection takes writes and the identifier is not zero (`World.writtenBy_answer`).

Over a run of packets and timer cycles, the QoS 2 messages under one identifier go to their
handlers at most once, however often the PUBLISH comes before the PUBREL and the PUBREL after it
(`Sim.receiveAll_atMostOnce`): a repeated PUBLISH does not replace the held message, and a PUBREL
takes the message out of the tracker as it hands it over. `Sim.handleInbound_spec` puts the step
and the run together.
-/

namespace Mqtt

/-! ## What the exchange with the broker shows -/

/-- The parts of a world that packets from the broker act on: the held QoS 2 messages, the
acknowledgment queue, the subscriptions, the messages handed to handlers and the packets
written. -/
structure InboundView where
  qos2 : ExactlyOnce
  acks : AckQueue
  subs : SubscriptionTable HandlerRef
  deliveries : List (HandlerRef × Message)
  sent : List Written

def World.inbound (w : World) : InboundView :=
  ⟨w.client.qos2, w.client.acks, w.client.subs, w.trace.deliveries, w.trace.sent⟩

/-- What writing a packet on a connection leaves in the record of writes: nothing if the packet
does not encode into the send buffer, else what the network made of the bytes. -/
def World.writtenBy (w : World) (conn : Nat) (p : Packet) : List Written :=
  match w.client.codec.encode w.client.sendCap (some p) with
  | .error _ => []
  | .ok b => (w.net.write conn b).1.toList

/-- The handler deliveries of one dispatch of a message: one for each matching subscription with
a handler, in table order. -/
def SubscriptionTable.deliveriesOf {H : Type} (t : SubscriptionTable H) (m : Message) :
    List (H × Message) :=
  (t.dispatch m).2.map (·, m)

/-- The answer MQTT asks of a client for a packet from the broker: PUBACK for a QoS 1 message,
PUBREC for a QoS 2 message, PUBCOMP for a PUBREL. -/
def Packet.answer : Packet → Option Packet
  | .publish q => if q.qos == 1 then some (.puback q.packetId)
      else if q.qos == 2 then some (.pubrec q.packetId) else none
  | .pubrel i => some (.pubcomp i)
  | _ => none

/-- The acknowledgment a packet from the broker offers to the queue. -/
def Packet.offeredAck : Packet → Option Ack
  | .puback i => some ⟨.puback, i, []⟩
  | .pubrec i => some ⟨.pubrec, i, []⟩
  | .pubcomp i => some ⟨.pubcomp, i, []⟩
  | .suback s => some ⟨.suback, s.packetId, s.returnCodes⟩
  | .unsuback i => some ⟨.unsuback, i, []⟩
  | _ => none

namespace ExactlyOnce

/-- The messages a packet hands to the subscriptions when the tracker is `t`: a QoS 0 or 1
message at once, a QoS 2 message only when its PUBREL comes and it is held. -/
def handedOver (t : ExactlyOnce) : Packet → List Message
  | .publish q => if q.qos == 2 then [] else [q.toMessage]
  | .pubrel i => (t.lookup i).toList
  | _ => []

/-- The tracker after a packet arrives at time `now`: a QoS 2 message is tracked, a PUBREL
releases its identifier. -/
def afterPacket (t : ExactlyOnce) (now : Int) : Packet → ExactlyOnce
  | .publish q =>
    if q.qos == 2 then
      match t.track q.packetId (some q.toMessage) now with
      | .ok t' => t'
      | .error _ => t
    else t
  | .pubrel i => (t.release i).2
  | _ => t

end ExactlyOnce

/-- The view after a packet arrives at time `now`, where `written` tells what writing an answer
leaves in the record of writes. -/
def InboundView.receive (v : InboundView) (now : Int) (written : Packet → List Written)
    (p : Packet) : InboundView :=
  { qos2 := v.qos2.afterPacket now p
    acks := match p.offeredAck with
      | some a => (v.acks.push a).2
      | none => v.acks
    subs := v.subs
    deliveries := v.deliveries ++ (v.qos2.handedOver p).flatMap v.subs.deliveriesOf
    sent := v.sent ++ p.answer.toList.flatMap written }

namespace Sim

/-! ## Steps of a client, seen through the view -/

@[simp] theorem pure_snd {α : Type} (a : α) (w : World) : (pure (a, w) : Id (α × World)).2 = w :=
  rfl

/-- The world after two actions in a row. -/
theorem run_bind_snd {α β : Type} (x : Sim α) (f : α → Sim β) (w : World) :
    ((x >>= f).run w).2 = ((f (x.run w).1).run (x.run w).2).2 := rfl

@[simp] theorem now_run (w : World) : now.run w = pure (w.clock, w) := rfl

@[simp] theorem client_run (w : World) : client.run w = pure (w.client, w) := rfl

theorem client_bind_run {α : Type} (f : Client → Sim α) (w : World) :
    (client >>= f).run w = (f w.client).run w := rfl

@[simp] theorem modifyClient_run (f : Client → Client) (w : World) :
    (modifyClient f).run w = pure ((), { w with client := f w.client }) := rfl

@[simp] theorem record_run (f : Trace → Trace) (w : World) :
    (record f).run w = pure ((), { w with trace := f w.trace }) := rfl

@[simp] theorem metric_run (f : Client → MetricStore → MetricStore) (w : World) :
    (metric f).run w =
      pure ((), { w with client := { w.client with metrics := w.client.metrics.map (f w.client) } }) :=
  rfl

/-- Logging adds to the log and to nothing else. -/
theorem log_run (l : LogLevel) (msg : String) (attrs : Doc.Fields) (w : World) :
    (log l msg attrs).run w =
      pure ((), { w with trace := { w.trace with
        logs := w.trace.logs ++ (w.client.logger.record l msg attrs).toList } }) := by
  unfold log
  cases h : w.client.logger.record l msg attrs <;> simp [h]

/-- An action that only writes log records. -/
def LogsOnly {α : Type} (x : Sim α) : Prop :=
  ∀ w, ∃ logs, (x.run w).2 = { w with trace := { w.trace with logs } }

theorem logsOnly_log (l : LogLevel) (msg : String) (attrs : Doc.Fields) :
    LogsOnly (log l msg attrs) := fun w => ⟨_, by rw [log_run]; rfl⟩

/-- A loop whose body only logs only logs. -/
theorem logsOnly_forIn {β : Type} (l : List β) (f : β → Sim Unit) (hf : ∀ b, LogsOnly (f b)) :
    LogsOnly (forIn l () fun b _ => do f b; pure (ForInStep.yield ())) := by
  induction l with
  | nil => exact fun w => ⟨w.trace.logs, rfl⟩
  | cons b rest ih =>
    intro w
    obtain ⟨logs, hb⟩ := hf b w
    obtain ⟨logs', hrest⟩ := ih { w with trace := { w.trace with logs } }
    refine ⟨logs', ?_⟩
    simp only [List.forIn_cons, StateT.run_bind]
    rcases hrun : (f b).run w with ⟨u, w₁⟩
    simp only [hrun] at hb
    simp only [hb]
    exact hrest

/-- Dispatching a message adds its deliveries, and maybe a log record. -/
theorem dispatch_run (m : Message) (w : World) :
    ∃ logs, ((dispatch m).run w).2 = { w with trace := { w.trace with
      deliveries := w.trace.deliveries ++ w.client.subs.deliveriesOf m, logs } } := by
  unfold dispatch
  simp only [StateT.run_bind, client_run, pure_bind, record_run]
  split
  · rw [log_run]
    exact ⟨_, rfl⟩
  · exact ⟨_, rfl⟩

/-- Queuing an acknowledgment pushes it, and maybe logs that the queue was full. -/
theorem pushAck_run (a : Ack) (w : World) :
    ∃ logs, ((pushAck a).run w).2 =
      { w with
        client := { w.client with acks := (w.client.acks.push a).2 }
        trace := { w.trace with logs } } := by
  unfold pushAck
  simp only [StateT.run_bind, client_run, pure_bind, modifyClient_run]
  split
  · rw [log_run]
    exact ⟨_, rfl⟩
  · exact ⟨_, rfl⟩

/-- Writing a packet adds to the record of writes what the network made of its bytes. -/
theorem writePacket_inbound (conn : Nat) (p : Packet) (w : World) :
    ((writePacket conn p).run w).2.inbound =
      { w.inbound with sent := w.trace.sent ++ w.writtenBy conn p } := by
  unfold writePacket World.writtenBy
  simp only [StateT.run_bind, client_run, pure_bind]
  cases henc : w.client.codec.encode w.client.sendCap (some p) with
  | error e => simp [World.inbound]
  | ok bytes =>
    simp only
    rcases hres : w.net.write conn bytes with ⟨written, r, net⟩
    cases written <;> cases r <;> simp [hres, packetSent, World.inbound]

/-- An answer is written whether or not the write fails; a failure is only logged. -/
theorem reply_inbound (conn : Nat) (p : Packet) (w : World) :
    ((reply conn p).run w).2.inbound = { w.inbound with sent := w.trace.sent ++ w.writtenBy conn p } := by
  unfold reply
  rw [run_bind_snd, ← writePacket_inbound conn p w]
  cases ((writePacket conn p).run w).1 with
  | error e =>
    rw [log_run]
    rfl
  | ok u => rfl

/-- An action that leaves the view alone. -/
def KeepsView {α : Type} (x : Sim α) : Prop := ∀ w, ((x.run w).2).inbound = w.inbound

theorem KeepsView.bind {α β : Type} {x : Sim α} {f : α → Sim β} (hx : KeepsView x)
    (hf : ∀ a, KeepsView (f a)) : KeepsView (x >>= f) := by
  intro w
  rw [run_bind_snd, hf, hx]

theorem KeepsView.pure {α : Type} (a : α) : KeepsView (Pure.pure a : Sim α) := fun _ => rfl

theorem KeepsView.ite {α : Type} {c : Prop} [Decidable c] {x y : Sim α} (hx : KeepsView x)
    (hy : KeepsView y) : KeepsView (if c then x else y) := by
  split
  · exact hx
  · exact hy

theorem keepsView_now : KeepsView now := fun _ => rfl

theorem LogsOnly.keepsView {α : Type} {x : Sim α} (h : LogsOnly x) : KeepsView x := by
  intro w
  obtain ⟨logs, hx⟩ := h w
  rw [hx]
  rfl

theorem keepsView_metric (f : Client → MetricStore → MetricStore) : KeepsView (metric f) :=
  fun _ => rfl

theorem keepsView_client : KeepsView client := fun _ => rfl

theorem keepsView_remoteAddr : KeepsView remoteAddr := fun _ => rfl

/-- A change of the client that keeps its tracker, queue and subscriptions. -/
theorem keepsView_modifyClient {f : Client → Client}
    (hf : ∀ c, (f c).qos2 = c.qos2 ∧ (f c).acks = c.acks ∧ (f c).subs = c.subs) :
    KeepsView (modifyClient f) := by
  intro w
  obtain ⟨h1, h2, h3⟩ := hf w.client
  simp [World.inbound, h1, h2, h3]

theorem keepsView_log (l : LogLevel) (msg : String) (attrs : Doc.Fields) :
    KeepsView (log l msg attrs) := by
  intro w
  simp [log_run, World.inbound]

theorem keepsView_setState (st : ClientState) : KeepsView (setState st) := by
  intro w
  unfold setState
  simp only [StateT.run_bind, client_run, pure_bind]
  split
  · rfl
  · simp [log_run, World.inbound]

theorem keepsView_dropConn (target : Option Nat) : KeepsView (dropConn target) := by
  intro w
  unfold dropConn closeLink modifyNet
  simp only [StateT.run_bind, client_run, pure_bind]
  split <;> split <;> simp [World.inbound]

theorem keepsView_mark (m : BudgetMark) : KeepsView (mark m) := fun _ => rfl

theorem keepsView_noteConnack (p : Connack) : KeepsView (noteConnack p) := fun _ => rfl

theorem keepsView_emit (e : ClientEvent) : KeepsView (emit e) := by
  intro w
  unfold emit
  simp only [StateT.run_bind, client_run, pure_bind]
  split <;> simp [World.inbound]

/-- A CONNACK changes the link, not the view. -/
theorem keepsView_handleConnack (a : Connack) : KeepsView (handleConnack a) := by
  unfold handleConnack
  refine (keepsView_noteConnack a).bind fun _ => .ite ?_ ?_
  · -- a refusal gives the client up and closes the connection
    exact (keepsView_setState _).bind fun _ => (keepsView_dropConn _).bind fun _ =>
      (keepsView_log _ _ _).bind fun _ => .pure _
  · -- an acceptance links the client
    refine (keepsView_now).bind fun _ => (keepsView_setState _).bind fun _ =>
      (keepsView_client).bind fun _ => (keepsView_modifyClient ?_).bind fun _ =>
      (keepsView_mark _).bind fun _ => (keepsView_remoteAddr).bind fun _ => (keepsView_log _ _ _).bind fun _ =>
      (keepsView_emit _).bind fun _ => .pure _
    exact fun _ => ⟨rfl, rfl, rfl⟩

/-- Writing reads only the client's codec and send buffer, and the network. -/
theorem writtenBy_congr {w w' : World} (hcodec : w'.client.codec = w.client.codec)
    (hoptions : w'.client.options = w.client.options) (hnet : w'.net = w.net) :
    w'.writtenBy = w.writtenBy := by
  funext conn p
  simp [World.writtenBy, Client.sendCap, hcodec, hoptions, hnet]

@[simp] theorem writtenBy_client_qos2 (w : World) (t : ExactlyOnce) :
    ({ w with client := { w.client with qos2 := t } } : World).writtenBy = w.writtenBy := rfl

@[simp] theorem writtenBy_trace (w : World) (tr : Trace) :
    ({ w with trace := tr } : World).writtenBy = w.writtenBy := rfl

/-- A PUBLISH: a QoS 2 message is tracked and answered with PUBREC; any other goes to the
matching handlers at once, and at QoS 1 is answered with PUBACK. -/
theorem handlePublish_inbound (conn : Nat) (q : Publish) (w : World) :
    ((handlePublish conn q).run w).2.inbound =
      w.inbound.receive w.clock (w.writtenBy conn) (.publish q) := by
  unfold handlePublish
  by_cases h2 : q.qos = 2
  · simp only [h2, beq_self_eq_true, if_true, StateT.run_bind, client_run, now_run, pure_bind]
    cases ht : w.client.qos2.track q.packetId (some q.toMessage) w.clock with
    | ok t' =>
      simp only [StateT.run_bind, modifyClient_run, pure_bind, reply_inbound]
      simp [InboundView.receive, World.inbound, ExactlyOnce.afterPacket, ExactlyOnce.handedOver,
        Packet.answer, Packet.offeredAck, h2, ht]
    | error e =>
      simp only [StateT.run_bind, log_run, pure_bind, reply_inbound]
      simp [InboundView.receive, World.inbound, ExactlyOnce.afterPacket, ExactlyOnce.handedOver,
        Packet.answer, Packet.offeredAck, h2, ht]
  · have hne : (q.qos == 2) = false := by simpa using h2
    simp only [hne, Bool.false_eq_true, if_false]
    rw [run_bind_snd]
    obtain ⟨logs, hd⟩ := dispatch_run q.toMessage w
    rw [hd]
    by_cases h1 : q.qos = 1
    · simp only [h1, beq_self_eq_true, if_true, reply_inbound]
      simp [InboundView.receive, World.inbound, ExactlyOnce.afterPacket, ExactlyOnce.handedOver,
        Packet.answer, Packet.offeredAck, h1]
    · have hne1 : (q.qos == 1) = false := by simpa using h1
      simp only [hne1, Bool.false_eq_true, if_false]
      simp [InboundView.receive, World.inbound, ExactlyOnce.afterPacket, ExactlyOnce.handedOver,
        Packet.answer, Packet.offeredAck, hne, hne1]

/-- One packet read from the broker, seen through the view: the tracker, the queue, the
deliveries and the writes change as `InboundView.receive` says, at the time of reading and with
the writes the connection makes of the answers. -/
theorem handlePacket_inbound (conn : Nat) (p : Packet) (w : World) :
    ((handlePacket conn p).run w).2.inbound = w.inbound.receive w.clock (w.writtenBy conn) p := by
  unfold handlePacket
  -- the match on the packet stays whole (`-iota`) until the packet is split below
  simp -iota only [StateT.run_bind, now_run, modifyClient_run, pure_bind]
  -- the keep-alive notes the packet; nothing the view shows or writing reads changes
  generalize hw₁ : ({ w with client := { w.client with keepAlive := w.client.keepAlive.received w.clock } } :
    World) = w₁
  have hview : w₁.inbound = w.inbound := by rw [← hw₁]; rfl
  obtain ⟨hq, ha, hs, hd, hsent⟩ : w₁.client.qos2 = w.client.qos2 ∧ w₁.client.acks = w.client.acks ∧
      w₁.client.subs = w.client.subs ∧ w₁.trace.deliveries = w.trace.deliveries ∧
      w₁.trace.sent = w.trace.sent := by
    rw [← hw₁]
    exact ⟨rfl, rfl, rfl, rfl, rfl⟩
  have hclock : w₁.clock = w.clock := by rw [← hw₁]
  have hwritten : w₁.writtenBy = w.writtenBy :=
    writtenBy_congr (by rw [← hw₁]) (by rw [← hw₁]) (by rw [← hw₁])
  cases p with
  | connack a =>
    rw [run_bind_snd]
    simp only [StateT.run_pure, pure_snd]
    rw [keepsView_handleConnack a, hview]
    simp [InboundView.receive, ExactlyOnce.afterPacket, ExactlyOnce.handedOver, Packet.answer,
      Packet.offeredAck]
  | publish q => rw [handlePublish_inbound, hview, hclock, hwritten]
  | pubrel i =>
    -- the held message leaves the tracker, goes to the handlers, and PUBCOMP answers
    simp only [StateT.run_bind, client_run, modifyClient_run, pure_bind]
    have hlookup : (w₁.client.qos2.release i).1 = w.client.qos2.lookup i := by
      rw [ExactlyOnce.release_fst, hq]
    cases hl : (w₁.client.qos2.release i).1 with
    | none =>
      rw [hl] at hlookup
      rw [reply_inbound, writtenBy_client_qos2]
      simp [InboundView.receive, World.inbound, ExactlyOnce.afterPacket, ExactlyOnce.handedOver,
        Packet.answer, Packet.offeredAck, hq, ha, hs, hd, hsent, ← hlookup, ← hwritten]
    | some msg =>
      rw [hl] at hlookup
      rw [run_bind_snd]
      obtain ⟨logs, hdis⟩ := dispatch_run msg
        { w₁ with client := { w₁.client with qos2 := (w₁.client.qos2.release i).2 } }
      rw [hdis, reply_inbound, writtenBy_trace, writtenBy_client_qos2]
      simp [InboundView.receive, World.inbound, ExactlyOnce.afterPacket, ExactlyOnce.handedOver,
        Packet.answer, Packet.offeredAck, hq, ha, hs, hd, hsent, ← hlookup, ← hwritten]
  | puback i | pubrec i | pubcomp i | unsuback i | suback _ =>
    obtain ⟨logs, h⟩ := pushAck_run _ w₁
    rw [h]
    simp [InboundView.receive, World.inbound, ExactlyOnce.afterPacket, ExactlyOnce.handedOver,
      Packet.answer, Packet.offeredAck, hq, ha, hs, hd, hsent]
  | pingresp =>
    simp [InboundView.receive, ExactlyOnce.afterPacket, ExactlyOnce.handedOver, Packet.answer,
      Packet.offeredAck, hview]
  | connect _ | subscribe _ | unsubscribe _ | pingreq | disconnect =>
    -- a packet only a client sends is logged as unexpected
    rw [log_run]
    simp [InboundView.receive, World.inbound, ExactlyOnce.afterPacket, ExactlyOnce.handedOver,
      Packet.answer, Packet.offeredAck, hq, ha, hs, hd, hsent]

/-- The tracker's share of a timer cycle moves the tracker on by one resend cycle; dropped
messages are only counted and logged. -/
theorem qos2Cycle_inbound (t : Int) (w : World) :
    ((qos2Cycle t).run w).2.inbound = { w.inbound with qos2 := (w.client.qos2.retryCycle t).2 } := by
  unfold qos2Cycle
  simp only [StateT.run_bind, client_run, modifyClient_run, pure_bind]
  refine Eq.trans ((?_ : KeepsView _) _) (by simp [World.inbound])
  -- counting and logging the dropped messages shows nowhere in the view
  exact .ite ((keepsView_metric _).bind fun _ =>
    (logsOnly_forIn _ _ fun _ => logsOnly_log _ _ _).keepsView.bind fun _ => .pure _) (.pure _)

end Sim

/-! ## Answers on the wire -/

/-- A connection a client can answer on: the network knows it and the client has not closed it,
the broker takes writes, and the send buffer holds an acknowledgment. -/
structure Writable (w : World) (conn : Nat) : Prop where
  known : ∃ l, w.net.get? conn = some l ∧ l.closedByClient = false
  accepted : w.net.broker.failWrites = false
  room : 4 ≤ w.client.sendCap

/-- A packet that the codec takes as it is, that encodes into four bytes at most and that reads
back as itself is written on such a connection as itself. -/
theorem World.writtenBy_packet {w : World} {conn : Nat} (hw : Writable w conn) {r : Packet}
    (hprep : w.client.codec.prepare (some r) = .ok r) (hfail : r.encode.failure = none)
    (hlen : r.encode.bytes.length ≤ 4) (htext : r.textFields = []) (hwire : r.onWire = r) :
    w.writtenBy conn r = [.packet conn r] := by
  have henc : w.client.codec.encode w.client.sendCap (some r) = .ok r.encode.bytes := by
    have hroom := hw.room
    simp only [Codec.encode, hprep, bind, Except.bind, hfail]
    rw [if_neg (by omega)]
  have hdec : ({} : Codec).decode r.encode.bytes = .ok (r, r.encode.bytes.length) := by
    have h := Packet.decode_encoded {} r hfail (by simp [htext]) (by omega) []
    rwa [List.append_nil, hwire] at h
  obtain ⟨l, hl, hcl⟩ := hw.known
  unfold World.writtenBy
  rw [henc]
  simp only [Network.write, hl, hcl, hw.accepted, hdec, Bool.false_eq_true, if_false]
  split <;> rfl

/-- An acknowledgment with an identifier other than zero is written on such a connection as
itself. -/
theorem World.writtenBy_ack {w : World} {conn : Nat} (hw : Writable w conn) {r : Packet}
    (k : PacketKind) (i : UInt16) (hi : i ≠ 0) (henc : r.encode = ackFrame k i)
    (hentries : r.entryCount = 0) (htext : r.textFields = []) (hwire : r.onWire = r) :
    w.writtenBy conn r = [.packet conn r] := by
  have hi' : (i == 0) = false := by simpa using hi
  have hprep : w.client.codec.prepare (some r) = .ok r := by
    simp only [Codec.prepare, hentries, Nat.cast_zero]
    rw [if_neg (by simp only [Bool.and_eq_true, decide_eq_true_eq]; omega)]
    -- a CONNECT carries text fields, so it is not an acknowledgment
    cases r with
    | connect q => simp [Packet.textFields] at htext
    | _ => rfl
  refine writtenBy_packet hw hprep ?_ ?_ htext hwire
  · simp [henc, ackFrame, hi', Emission.ok]
  · simp [henc, ackFrame, hi', Emission.ok]

/-- The answer to a packet from the broker, if its identifier is not zero, is written on such a
connection as itself. -/
theorem World.writtenBy_answer {w : World} {conn : Nat} (hw : Writable w conn) {p r : Packet}
    (hr : p.answer = some r) (hid : r.packetId? ≠ some 0) : w.writtenBy conn r = [.packet conn r] := by
  -- the answers are PUBACK, PUBREC and PUBCOMP
  have hcases : ∃ i, r = .puback i ∨ r = .pubrec i ∨ r = .pubcomp i := by
    cases p <;> simp only [Packet.answer, reduceCtorEq, Option.some.injEq] at hr
    case publish q =>
      split at hr
      · exact ⟨q.packetId, .inl (Option.some.inj hr).symm⟩
      · split at hr
        · exact ⟨q.packetId, .inr (.inl (Option.some.inj hr).symm)⟩
        · cases hr
    case pubrel i => exact ⟨i, .inr (.inr hr.symm)⟩
  obtain ⟨i, rfl | rfl | rfl⟩ := hcases <;>
  · have hi : i ≠ 0 := fun h => hid (by rw [h]; rfl)
    exact writtenBy_ack hw _ i hi rfl rfl rfl rfl

/-! ## Runs of packets and timer cycles -/

/-- What reaches the inbound side of a running client: a packet read from its connection, or
the tracker's share of a timer cycle at some time. -/
inductive Arrival where
  | packet (p : Packet)
  | cycle (t : Int)

namespace Arrival

/-- Whether an arrival is a PUBREL for an identifier. -/
def releases (i : UInt16) : Arrival → Bool
  | .packet (.pubrel j) => j == i
  | _ => false

/-- Whether an arrival is a QoS 2 PUBLISH under an identifier. -/
def publishesQoS2 (i : UInt16) : Arrival → Bool
  | .packet (.publish q) => q.qos == 2 && q.packetId == i
  | _ => false

end Arrival

/-- Every held message carries the identifier it is held under, as a QoS 2 PUBLISH leaves it. -/
def ExactlyOnce.Keyed (t : ExactlyOnce) : Prop := ∀ e ∈ t.pending, e.2.packetId = e.1

namespace ExactlyOnce

variable {t : ExactlyOnce}

theorem Keyed.sublist (hk : t.Keyed) {t' : ExactlyOnce} (h : t'.pending.Sublist t.pending) :
    t'.Keyed :=
  fun e he => hk e (h.subset he)

/-- A PUBLISH leaves the tracker as it was, or, at QoS 2, holds its message under its
identifier in some row of slots. -/
theorem afterPacket_publish (t : ExactlyOnce) (now : Int) (q : Publish) :
    t.afterPacket now (.publish q) = t ∨
      q.qos = 2 ∧ ∃ sl, t.afterPacket now (.publish q) =
        { t with slots := sl, pending := t.pending ++ [(q.packetId, q.toMessage)] } := by
  simp only [afterPacket]
  split
  · rename_i h2
    split
    · rename_i t' ht
      rcases track_ok ht with ⟨-, rfl⟩ | ⟨msg, sl, hmsg, -, -, -, rfl⟩
      · exact .inl rfl
      · rw [← Option.some.inj hmsg]
        exact .inr ⟨by simpa using h2, sl, rfl⟩
    · exact .inl rfl
  · exact .inl rfl

/-- A packet keeps every held message under its own identifier. -/
theorem Keyed.afterPacket (hk : t.Keyed) (now : Int) (p : Packet) : (t.afterPacket now p).Keyed := by
  cases p with
  | publish q =>
    rcases afterPacket_publish t now q with h | ⟨-, sl, h⟩
    · rw [h]
      exact hk
    · -- the new entry is the message under its own identifier
      rw [h]
      intro e he
      rw [List.mem_append, List.mem_singleton] at he
      rcases he with he | rfl
      · exact hk e he
      · rfl
  | pubrel i => exact hk.sublist (release_pending_sublist t i)
  | _ => exact hk

/-- A QoS 2 message is handed over only by the PUBREL of its identifier, as the message held
under it. -/
theorem mem_handedOver (hk : t.Keyed) {p : Packet} {m : Message} (hm : m ∈ t.handedOver p)
    (h2 : m.qos = 2) : p = .pubrel m.packetId ∧ t.lookup m.packetId = some m := by
  cases p with
  | publish q =>
    simp only [handedOver] at hm
    split at hm
    · cases hm
    · rename_i hq
      rw [List.mem_singleton] at hm
      subst hm
      exact absurd h2 (by simpa [Publish.toMessage] using hq)
  | pubrel i =>
    simp only [handedOver, Option.mem_toList] at hm
    have hi : m.packetId = i := by
      simp only [lookup, Option.map_eq_some_iff] at hm
      obtain ⟨e, he, rfl⟩ := hm
      have hkey : e.1 = i := by simpa using List.find?_some he
      rw [← hkey]
      exact hk e (List.mem_of_find?_eq_some he)
    subst hi
    exact ⟨rfl, hm⟩
  | _ => simp [handedOver] at hm

theorem contains_of_sublist {t' : ExactlyOnce} (h : t'.pending.Sublist t.pending) {i : UInt16}
    (hc : t.contains i = false) : t'.contains i = false := by
  simp only [contains, lookup, Option.isSome_map, Bool.eq_false_iff, ne_eq, List.find?_isSome,
    not_exists, not_and] at hc ⊢
  exact fun e he => hc e (h.subset he)

/-- An identifier not held stays so through a packet that is not a QoS 2 PUBLISH under it. -/
theorem contains_afterPacket {i : UInt16} (hc : t.contains i = false) (now : Int) {p : Packet}
    (hp : (Arrival.packet p).publishesQoS2 i = false) : (t.afterPacket now p).contains i = false := by
  cases p with
  | publish q =>
    rcases afterPacket_publish t now q with h | ⟨h2, sl, h⟩
    · rw [h]
      exact hc
    · -- the new entry is under another identifier
      have hq : q.packetId ≠ i := by simpa [Arrival.publishesQoS2, h2] using hp
      rw [h]
      simpa [contains, lookup, List.find?_append, hq] using hc
  | pubrel j => exact contains_of_sublist (release_pending_sublist t j) hc
  | _ => exact hc

/-- The tracker after an arrival at time `now`. -/
def afterArrival (t : ExactlyOnce) (now : Int) : Arrival → ExactlyOnce
  | .packet p => t.afterPacket now p
  | .cycle c => (t.retryCycle c).2

/-- The messages an arrival hands to the subscriptions; a timer cycle hands over none. -/
def handedOverBy (t : ExactlyOnce) : Arrival → List Message
  | .packet p => t.handedOver p
  | .cycle _ => []

theorem Keyed.afterArrival (hk : t.Keyed) (now : Int) (a : Arrival) : (t.afterArrival now a).Keyed := by
  cases a with
  | packet p => exact hk.afterPacket now p
  | cycle c => exact hk.sublist (retryCycle_pending_sublist t c)

theorem contains_afterArrival {i : UInt16} (hc : t.contains i = false) (now : Int) {a : Arrival}
    (ha : a.publishesQoS2 i = false) : (t.afterArrival now a).contains i = false := by
  cases a with
  | packet p => exact contains_afterPacket hc now ha
  | cycle c => exact contains_of_sublist (retryCycle_pending_sublist t c) hc

theorem mem_handedOverBy (hk : t.Keyed) {a : Arrival} {m : Message} (hm : m ∈ t.handedOverBy a)
    (h2 : m.qos = 2) : a = .packet (.pubrel m.packetId) ∧ t.lookup m.packetId = some m := by
  cases a with
  | packet p =>
    obtain ⟨rfl, hl⟩ := mem_handedOver hk hm h2
    exact ⟨rfl, hl⟩
  | cycle c => cases hm

end ExactlyOnce

/-- The view after an arrival at time `now`. -/
def InboundView.arrive (v : InboundView) (now : Int) (written : Packet → List Written) :
    Arrival → InboundView
  | .packet p => v.receive now written p
  | .cycle c => { v with qos2 := (v.qos2.retryCycle c).2 }

namespace InboundView

variable (v : InboundView) (now : Int) (written : Packet → List Written) (a : Arrival)

@[simp] theorem arrive_subs : (v.arrive now written a).subs = v.subs := by
  cases a <;> rfl

@[simp] theorem arrive_qos2 : (v.arrive now written a).qos2 = v.qos2.afterArrival now a := by
  cases a <;> rfl

theorem arrive_deliveries :
    (v.arrive now written a).deliveries =
      v.deliveries ++ (v.qos2.handedOverBy a).flatMap v.subs.deliveriesOf := by
  cases a with
  | packet p => rfl
  | cycle c => simp [arrive, ExactlyOnce.handedOverBy]

end InboundView

namespace Sim

/-- Handles one arrival, a packet as read on connection `conn`. -/
def receive (conn : Nat) : Arrival → Sim Unit
  | .packet p => handlePacket conn p
  | .cycle t => do let _ ← qos2Cycle t

def receiveAll (conn : Nat) : List Arrival → Sim Unit
  | [] => pure ()
  | a :: rest => do receive conn a; receiveAll conn rest

theorem receive_inbound (conn : Nat) (a : Arrival) (w : World) :
    ((receive conn a).run w).2.inbound = w.inbound.arrive w.clock (w.writtenBy conn) a := by
  cases a with
  | packet p => exact handlePacket_inbound conn p w
  | cycle t => exact qos2Cycle_inbound t w

theorem receiveAll_append (conn : Nat) (first rest : List Arrival) (w : World) :
    ((receiveAll conn (first ++ rest)).run w).2 =
      ((receiveAll conn rest).run ((receiveAll conn first).run w).2).2 := by
  induction first generalizing w with
  | nil => rfl
  | cons a first ih => exact ih ((receive conn a).run w).2

/-- What every step keeps, a whole run keeps. -/
theorem receiveAll_preserves {P : World → Prop} (conn : Nat) (arrivals : List Arrival)
    (hstep : ∀ a ∈ arrivals, ∀ w, P w → P ((receive conn a).run w).2) {w : World} (hw : P w) :
    P ((receiveAll conn arrivals).run w).2 := by
  induction arrivals generalizing w with
  | nil => exact hw
  | cons a rest ih =>
    exact ih (fun b hb => hstep b (List.mem_cons_of_mem a hb)) (hstep a List.mem_cons_self w hw)

end Sim

/-! ## At most one delivery of a QoS 2 message -/

/-- Whether a message is a QoS 2 message under identifier `i`. -/
def Message.isQoS2Under (i : UInt16) (m : Message) : Bool := m.qos == 2 && m.packetId == i

namespace SubscriptionTable

variable {H : Type} (t : SubscriptionTable H)

theorem snd_of_mem_deliveriesOf {m : Message} {x : H × Message} (hx : x ∈ t.deliveriesOf m) :
    x.2 = m := by
  obtain ⟨h, -, rfl⟩ := List.mem_map.mp hx
  rfl

theorem filter_deliveriesOf_self {keep : Message → Bool} {m : Message} (h : keep m = true) :
    (t.deliveriesOf m).filter (keep ·.2) = t.deliveriesOf m :=
  List.filter_eq_self.mpr fun x hx => by rw [t.snd_of_mem_deliveriesOf hx, h]

/-- Handing over messages none of which `keep` selects dispatches nothing it selects. -/
theorem filter_flatMap_deliveriesOf {L : List Message} {keep : Message → Bool}
    (h : ∀ m ∈ L, keep m = false) : (L.flatMap t.deliveriesOf).filter (keep ·.2) = [] := by
  rw [List.filter_eq_nil_iff]
  intro x hx
  obtain ⟨m, hm, hx⟩ := List.mem_flatMap.mp hx
  rw [t.snd_of_mem_deliveriesOf hx, h m hm]
  exact Bool.false_ne_true

end SubscriptionTable

namespace InboundView

/-- The deliveries of view `v` past the first `d₀` hold, as QoS 2 messages under `i`, exactly `c`. -/
def NewCopies (v : InboundView) (d₀ : List (HandlerRef × Message)) (i : UInt16)
    (c : List (HandlerRef × Message)) : Prop :=
  ∃ ds, v.deliveries = d₀ ++ ds ∧ ds.filter (·.2.isQoS2Under i) = c

/-- What a run keeps about identifier `i` from a view with subscriptions `subs` and deliveries
`d₀` on: the subscriptions stay, held messages stay keyed, and the QoS 2 messages under `i`
dispatched since are none, or one message dispatched once to `subs`, after which `i` is no
longer held. -/
structure AtMostOnce (i : UInt16) (subs : SubscriptionTable HandlerRef)
    (d₀ : List (HandlerRef × Message)) (v : InboundView) : Prop where
  subs_eq : v.subs = subs
  keyed : v.qos2.Keyed
  copies : v.NewCopies d₀ i [] ∨
    ∃ m, m.isQoS2Under i = true ∧ v.NewCopies d₀ i (subs.deliveriesOf m) ∧ v.qos2.contains i = false

variable {v : InboundView} {i : UInt16} {subs : SubscriptionTable HandlerRef}
  {d₀ : List (HandlerRef × Message)} (now : Int) (written : Packet → List Written)

theorem NewCopies.arrive {c : List (HandlerRef × Message)} (h : v.NewCopies d₀ i c) (a : Arrival) :
    (v.arrive now written a).NewCopies d₀ i
      (c ++ ((v.qos2.handedOverBy a).flatMap v.subs.deliveriesOf).filter (·.2.isQoS2Under i)) := by
  obtain ⟨ds, hds, hc⟩ := h
  refine ⟨ds ++ (v.qos2.handedOverBy a).flatMap v.subs.deliveriesOf, ?_, ?_⟩
  · rw [arrive_deliveries, hds, List.append_assoc]
  · rw [List.filter_append, hc]

/-- An arrival that hands over a QoS 2 message under `i` is the PUBREL of `i`, and the message
is the one held under `i`. -/
theorem handedOverBy_qos2 (hk : v.qos2.Keyed) {a : Arrival} {m : Message}
    (hm : m ∈ v.qos2.handedOverBy a) (hi : m.isQoS2Under i = true) :
    a = .packet (.pubrel i) ∧ v.qos2.lookup i = some m := by
  simp only [Message.isQoS2Under, Bool.and_eq_true, beq_iff_eq] at hi
  obtain ⟨h2, rfl⟩ := hi
  exact ExactlyOnce.mem_handedOverBy hk hm h2

/-- Before the PUBREL of `i`, no arrival dispatches a QoS 2 message under `i`. -/
theorem AtMostOnce.arrive_unreleased (hv : v.AtMostOnce i subs d₀) (hnone : v.NewCopies d₀ i [])
    {a : Arrival} (hr : a.releases i = false) :
    (v.arrive now written a).AtMostOnce i subs d₀ ∧ (v.arrive now written a).NewCopies d₀ i [] := by
  have hm : ∀ m ∈ v.qos2.handedOverBy a, m.isQoS2Under i = false := by
    intro m hm
    rw [Bool.eq_false_iff]
    intro hi
    obtain ⟨rfl, -⟩ := handedOverBy_qos2 hv.keyed hm hi
    simp [Arrival.releases] at hr
  have hnew := hnone.arrive now written a
  rw [v.subs.filter_flatMap_deliveriesOf hm] at hnew
  exact ⟨⟨by simp [hv.subs_eq], by simpa using hv.keyed.afterArrival now a, .inl hnew⟩, hnew⟩

/-- Once no QoS 2 PUBLISH stores under `i` again, an arrival keeps the QoS 2 messages under `i`
at most one dispatch: the PUBREL that hands one over also releases `i`. -/
theorem AtMostOnce.arrive (hv : v.AtMostOnce i subs d₀) {a : Arrival}
    (hp : a.publishesQoS2 i = false) : (v.arrive now written a).AtMostOnce i subs d₀ := by
  refine ⟨by simp [hv.subs_eq], by simpa using hv.keyed.afterArrival now a, ?_⟩
  by_cases hm : ∃ m ∈ v.qos2.handedOverBy a, m.isQoS2Under i = true
  · -- the arrival is the PUBREL of `i`, held until now, so nothing was dispatched before
    obtain ⟨m, hm, hi⟩ := hm
    obtain ⟨rfl, hl⟩ := handedOverBy_qos2 hv.keyed hm hi
    have hheld : v.qos2.contains i = true := by simp [ExactlyOnce.contains, hl]
    have hnone : v.NewCopies d₀ i [] := by
      rcases hv.copies with h | ⟨-, -, -, hc⟩
      · exact h
      · rw [hc] at hheld
        cases hheld
    have hnew := hnone.arrive now written (.packet (.pubrel i))
    simp only [ExactlyOnce.handedOverBy, ExactlyOnce.handedOver, hl, Option.toList_some,
      List.flatMap_singleton, hv.subs_eq, SubscriptionTable.filter_deliveriesOf_self _ hi,
      List.nil_append] at hnew
    refine .inr ⟨m, hi, hnew, ?_⟩
    simpa [ExactlyOnce.afterArrival, ExactlyOnce.afterPacket] using
      ExactlyOnce.release_not_contains v.qos2 i
  · -- nothing the arrival hands over is a QoS 2 message under `i`
    have hsame : ∀ {c}, v.NewCopies d₀ i c → (v.arrive now written a).NewCopies d₀ i c := by
      intro c h
      have hnot : ∀ m ∈ v.qos2.handedOverBy a, m.isQoS2Under i = false := by
        simpa using hm
      simpa [v.subs.filter_flatMap_deliveriesOf hnot] using h.arrive now written a
    rcases hv.copies with h | ⟨m, hi, h, hc⟩
    · exact .inl (hsame h)
    · exact .inr ⟨m, hi, hsame h, by simpa using ExactlyOnce.contains_afterArrival hc now hp⟩

end InboundView

namespace Sim

/-- A QoS 2 message under identifier `i` reaches the subscriptions at most once over a run in
which the PUBREL of `i` comes only after the last QoS 2 PUBLISH under `i`: the deliveries grow
by no such message, or by one such message dispatched to the subscriptions the client had at
the start. -/
theorem receiveAll_atMostOnce (conn : Nat) {w : World} (hk : w.client.qos2.Keyed) {i : UInt16}
    {before after : List Arrival} (hb : ∀ a ∈ before, a.releases i = false)
    (ha : ∀ a ∈ after, a.publishesQoS2 i = false) :
    ∃ ds, ((receiveAll conn (before ++ after)).run w).2.trace.deliveries = w.trace.deliveries ++ ds ∧
      (ds.filter (·.2.isQoS2Under i) = [] ∨
        ∃ m, m.isQoS2Under i = true ∧ ds.filter (·.2.isQoS2Under i) = w.client.subs.deliveriesOf m) := by
  have hstart : w.inbound.NewCopies w.trace.deliveries i [] := ⟨[], by simp [World.inbound], rfl⟩
  -- up to the PUBREL nothing under `i` is dispatched
  have hfirst := receiveAll_preserves
    (P := fun w' => w'.inbound.AtMostOnce i w.client.subs w.trace.deliveries ∧
      w'.inbound.NewCopies w.trace.deliveries i []) conn before
    (fun a ha w' ⟨hv, hnone⟩ => by
      rw [receive_inbound]
      exact hv.arrive_unreleased _ _ hnone (hb a ha))
    ⟨⟨rfl, hk, .inl hstart⟩, hstart⟩
  -- from then on at most the one dispatch the PUBREL of `i` makes
  have hsecond := receiveAll_preserves
    (P := fun w' => w'.inbound.AtMostOnce i w.client.subs w.trace.deliveries) conn after
    (fun a ha' w' (hv : w'.inbound.AtMostOnce i w.client.subs w.trace.deliveries) => by
      rw [receive_inbound]
      exact hv.arrive _ _ (ha a ha'))
    hfirst.1
  rw [receiveAll_append]
  rcases hsecond.copies with ⟨ds, hds, hc⟩ | ⟨m, hi, ⟨ds, hds, hc⟩, -⟩
  · exact ⟨ds, hds, .inl hc⟩
  · exact ⟨ds, hds, .inr ⟨m, hi, hc⟩⟩

/-! ## Inbound handling -/

/-- How a client handles what arrives on connection `conn`. A packet extends the deliveries by
the messages it hands over (a QoS 0 or 1 message on arrival, a QoS 2 message only at the PUBREL
of its identifier, if held), moves the tracker on, and offers acknowledgments to the ack queue
with their kind, identifier and SUBACK codes; its answer, a PUBACK, PUBREC or PUBCOMP with the
packet's identifier, is written whenever the connection takes writes and the identifier is not
zero. Over a run of packets and timer cycles in which the PUBREL of `i` comes only after the
last QoS 2 PUBLISH under `i`, at most one QoS 2 message under `i` is dispatched, and once. -/
theorem handleInbound_spec (w : World) (conn : Nat) :
    (∀ p : Packet,
      let w' := ((handlePacket conn p).run w).2
      w'.trace.deliveries =
        w.trace.deliveries ++ (w.client.qos2.handedOver p).flatMap w.client.subs.deliveriesOf ∧
      w'.client.qos2 = w.client.qos2.afterPacket w.clock p ∧
      w'.client.acks = (match p.offeredAck with
        | some a => (w.client.acks.push a).2
        | none => w.client.acks) ∧
      (Writable w conn → (∀ r ∈ p.answer, r.packetId? ≠ some 0) →
        w'.trace.sent = w.trace.sent ++ (p.answer.map (Written.packet conn)).toList)) ∧
    (w.client.qos2.Keyed → ∀ (i : UInt16) (before after : List Arrival),
      (∀ a ∈ before, a.releases i = false) → (∀ a ∈ after, a.publishesQoS2 i = false) →
      ∃ ds, ((receiveAll conn (before ++ after)).run w).2.trace.deliveries = w.trace.deliveries ++ ds ∧
        (ds.filter (·.2.isQoS2Under i) = [] ∨
          ∃ m, m.isQoS2Under i = true ∧ ds.filter (·.2.isQoS2Under i) = w.client.subs.deliveriesOf m)) := by
  refine ⟨fun p => ?_, fun hk i _ _ hb ha => receiveAll_atMostOnce conn hk hb ha⟩
  have h := handlePacket_inbound conn p w
  refine ⟨congrArg InboundView.deliveries h, congrArg InboundView.qos2 h,
    congrArg InboundView.acks h, fun hw hid => ?_⟩
  -- the record of writes grows by what writing the answer leaves there
  have hsent : ((handlePacket conn p).run w).2.trace.sent =
      w.trace.sent ++ p.answer.toList.flatMap (w.writtenBy conn) :=
    congrArg InboundView.sent h
  rw [hsent]
  cases hr : p.answer with
  | none => rfl
  | some r => simp [World.writtenBy_answer hw hr (hid r hr)]

end Sim

/-- A client with default settings and a one-slot tracker, on connection 1 of a broker that
takes writes. -/
def World.fresh : World :=
  { client := { (default : Client) with options := {}, qos2 := ExactlyOnce.create 1 3 2000 }
    net := { links := [{ id := 1 }] } }

/-- A PUBREL is answered by its PUBCOMP, and a QoS 2 PUBLISH sent twice, the second time with
DUP, then released twice around a timer cycle, is dispatched at most once. -/
theorem handleInbound_spec_repeated :
    ((Sim.handlePacket 1 (.pubrel 7)).run World.fresh).2.trace.sent = [.packet 1 (.pubcomp 7)] ∧
    ∃ ds, ((Sim.receiveAll 1
        ([.packet (.publish { qos := 2, packetId := 7 }),
          .packet (.publish { qos := 2, packetId := 7, dup := true })] ++
         [.packet (.pubrel 7), .cycle 0, .packet (.pubrel 7)])).run World.fresh).2.trace.deliveries =
        World.fresh.trace.deliveries ++ ds ∧
      (ds.filter (·.2.isQoS2Under 7) = [] ∨
        ∃ m, m.isQoS2Under 7 = true ∧
          ds.filter (·.2.isQoS2Under 7) = World.fresh.client.subs.deliveriesOf m) := by
  have hw : Writable World.fresh 1 := ⟨⟨{ id := 1 }, rfl, rfl⟩, rfl, by decide⟩
  have hk : World.fresh.client.qos2.Keyed := fun _ he => nomatch he
  obtain ⟨hstep, hrun⟩ := Sim.handleInbound_spec World.fresh 1
  refine ⟨?_, hrun hk 7 _ _ (by decide) (by decide)⟩
  exact ((hstep (.pubrel 7)).2.2.2 hw (by simp [Packet.answer, Packet.packetId?])).trans rfl

end Mqtt
