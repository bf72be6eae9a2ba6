import Mqtt.Proofs.Inbound
/-! # Exchanges: a packet written until it is acknowledged

An exchange writes a packet, lets the reader run, and takes the acknowledgment it waits for from
the queue; without one it writes the packet again, a PUBLISH marked as sent before, until the
retry budget is used up. The record of writes shows what the broker read, so a statement about
the packets a client wrote is made through `WrittenAs`: the records an action adds are those
that writing some list of packets, in turn, leaves behind.

* `Sim.Writes P x`: every run of `x` writes only packets that satisfy `P` and keeps the client's
  setup (`KeepsSetup`: codec, settings, table of subscriptions, packet identifiers, whether it
  runs) and the acknowledgments taken. It has the rules of a triple and one lemma
  per action.
* The reader writes only answers: PUBACK, PUBREC and PUBCOMP for what it reads, and CONNECT when
  it connects again (`Sim.writes_pump`).
* `Sim.sendAndWaitFrom_exchange`: the copies an exchange writes, in order, with the reader's
  answers between them, the acknowledgment it takes, and how it ends.
-/

namespace Mqtt

/-! ## Records of writes -/

/-- What writing a packet on a connection of a network leaves in the record of writes: nothing if
the packet does not encode into the send buffer, else what the network made of the bytes. -/
def Network.recordOf (n : Network) (codec : Codec) (cap : Nat) (conn : Nat) (p : Packet) :
    List Written :=
  match codec.encode cap (some p) with
  | .error _ => []
  | .ok b => (n.write conn b).1.toList

/-- The records that writing the packets `ps` in turn leaves, each on some connection of the
network as it was at the time. -/
inductive WrittenAs (codec : Codec) (cap : Nat) : List Packet → List Written → Prop
  | nil : WrittenAs codec cap [] []
  | cons {p : Packet} {ps : List Packet} {rs : List Written} (net : Network) (conn : Nat) :
      WrittenAs codec cap ps rs → WrittenAs codec cap (p :: ps) (net.recordOf codec cap conn p ++ rs)

namespace WrittenAs

variable {codec : Codec} {cap : Nat}

theorem append {ps qs : List Packet} {rs ss : List Written} (h : WrittenAs codec cap ps rs)
    (h' : WrittenAs codec cap qs ss) : WrittenAs codec cap (ps ++ qs) (rs ++ ss) := by
  induction h with
  | nil => exact h'
  | cons net conn _ ih =>
    rw [List.cons_append, List.append_assoc]
    exact .cons net conn ih

theorem nil_iff {rs : List Written} : WrittenAs codec cap [] rs ↔ rs = [] := by
  constructor
  · intro h
    cases h
    rfl
  · rintro rfl
    exact .nil

end WrittenAs

/-- What neither the reader nor an exchange changes: the client's codec and settings, its table of
subscriptions, where its packet identifiers stand, and whether it runs. -/
structure KeepsSetup (w w' : World) : Prop where
  codec : w'.client.codec = w.client.codec
  options : w'.client.options = w.client.options
  subs : w'.client.subs = w.client.subs
  ids : w'.client.ids = w.client.ids
  running : w'.client.running = w.client.running

theorem KeepsSetup.refl (w : World) : KeepsSetup w w := ⟨rfl, rfl, rfl, rfl, rfl⟩

theorem KeepsSetup.trans {w₁ w₂ w₃ : World} (h₁ : KeepsSetup w₁ w₂)
    (h₂ : KeepsSetup w₂ w₃) : KeepsSetup w₁ w₃ :=
  ⟨h₂.codec.trans h₁.codec, h₂.options.trans h₁.options, h₂.subs.trans h₁.subs,
    h₂.ids.trans h₁.ids, h₂.running.trans h₁.running⟩

theorem KeepsSetup.sendCap {w w' : World} (h : KeepsSetup w w') :
    w'.client.sendCap = w.client.sendCap := by
  simp [Client.sendCap, h.options]

/-- `w'` holds the records of `w` and after them those of writing `ps` in turn. -/
def Recorded (w w' : World) (ps : List Packet) : Prop :=
  ∃ rs, w'.trace.sent = w.trace.sent ++ rs ∧ WrittenAs w.client.codec w.client.sendCap ps rs

theorem Recorded.refl (w : World) : Recorded w w [] := ⟨[], by simp, .nil⟩

/-- Records in two stretches, the second written with the same codec and send buffer. -/
theorem Recorded.trans {w₁ w₂ w₃ : World} {ps qs : List Packet} (h₁ : Recorded w₁ w₂ ps)
    (codec : w₂.client.codec = w₁.client.codec) (cap : w₂.client.sendCap = w₁.client.sendCap)
    (h₂ : Recorded w₂ w₃ qs) : Recorded w₁ w₃ (ps ++ qs) := by
  obtain ⟨rs, hrs, hw⟩ := h₁
  obtain ⟨ss, hss, hw'⟩ := h₂
  refine ⟨rs ++ ss, by rw [hss, hrs, List.append_assoc], hw.append ?_⟩
  rwa [← codec, ← cap]

/-- A world with the same records records no writes. -/
theorem Recorded.of_sent {w w' : World} (same : w'.trace.sent = w.trace.sent) : Recorded w w' [] :=
  ⟨[], by simp [same], .nil⟩

/-- Writing one packet on a connection of the world's network. -/
theorem Recorded.write (w : World) (conn : Nat) (p : Packet) {w' : World}
    (sent : w'.trace.sent = w.trace.sent ++ w.writtenBy conn p) : Recorded w w' [p] := by
  have one : WrittenAs w.client.codec w.client.sendCap [p] (w.writtenBy conn p ++ []) :=
    .cons w.net conn .nil
  exact ⟨_, sent, by simpa using one⟩

/-- The kinds of packet the reader writes of its own accord: the answers to what it reads, and
CONNECT when it connects again. -/
def PacketKind.fromReader : List PacketKind := [.puback, .pubrec, .pubcomp, .connect]

/-- A packet the reader may write. -/
def Packet.FromReader (p : Packet) : Prop := p.kind ∈ PacketKind.fromReader

namespace Sim

/-- Every run of `x` keeps the client's setup and the acknowledgments taken, and adds to the
record of writes what writing some packets that satisfy `P` leaves. -/
def Writes (P : Packet → Prop) {α : Type} (x : Sim α) : Prop :=
  ∀ w, KeepsSetup w (x.run w).2 ∧ (x.run w).2.trace.taken = w.trace.taken ∧
    ∃ ps, (∀ p ∈ ps, P p) ∧ Recorded w (x.run w).2 ps

section Rules

variable {P Q : Packet → Prop} {α β : Type}

theorem Writes.bind {x : Sim α} {f : α → Sim β} (hx : Writes P x) (hf : ∀ a, Writes P (f a)) :
    Writes P (x >>= f) := by
  intro w
  obtain ⟨kept, took, ps, hps, recorded⟩ := hx w
  obtain ⟨kept', took', qs, hqs, recorded'⟩ := hf (x.run w).1 (x.run w).2
  rw [run_bind_snd]
  refine ⟨kept.trans kept', took'.trans took, ps ++ qs, ?_,
    recorded.trans kept.codec kept.sendCap recorded'⟩
  intro p hp
  rcases List.mem_append.mp hp with h | h
  · exact hps p h
  · exact hqs p h

theorem Writes.pure (a : α) : Writes P (Pure.pure a : Sim α) :=
  fun w => ⟨.refl w, rfl, [], by simp, .refl w⟩

theorem Writes.ite {c : Prop} [Decidable c] {x y : Sim α} (hx : Writes P x) (hy : Writes P y) :
    Writes P (if c then x else y) := by
  split
  · exact hx
  · exact hy

theorem Writes.mono {x : Sim α} (hx : Writes P x) (weaker : ∀ p, P p → Q p) : Writes Q x := by
  intro w
  obtain ⟨kept, took, ps, hps, recorded⟩ := hx w
  exact ⟨kept, took, ps, fun p hp => weaker p (hps p hp), recorded⟩

/-- What follows a read of the world needs to write only from that world. -/
theorem Writes.get_bind {f : World → Sim α}
    (hf : ∀ w, KeepsSetup w ((f w).run w).2 ∧ ((f w).run w).2.trace.taken = w.trace.taken ∧
      ∃ ps, (∀ p ∈ ps, P p) ∧ Recorded w ((f w).run w).2 ps) :
    Writes P (get >>= f) :=
  hf

/-- An action that keeps the trace's writes and acknowledgments and the setup writes nothing. -/
theorem Writes.of_silent {x : Sim α} (silent : ∀ w, (x.run w).2.trace.sent = w.trace.sent ∧
    (x.run w).2.trace.taken = w.trace.taken ∧ KeepsSetup w (x.run w).2) :
    Writes P x := by
  intro w
  obtain ⟨sent, took, kept⟩ := silent w
  exact ⟨kept, took, [], by simp, .of_sent sent⟩

end Rules

/-! ## Actions that write nothing -/

section Silent

variable {P : Packet → Prop}

theorem writes_client : Writes P client := .of_silent fun _ => ⟨rfl, rfl, rfl, rfl, rfl, rfl, rfl⟩

theorem writes_now : Writes P now := .of_silent fun _ => ⟨rfl, rfl, rfl, rfl, rfl, rfl, rfl⟩

theorem writes_get : Writes P (get : Sim World) :=
  .of_silent fun _ => ⟨rfl, rfl, rfl, rfl, rfl, rfl, rfl⟩

theorem writes_sleep (ms : Int) : Writes P (sleep ms) :=
  .of_silent fun _ => ⟨rfl, rfl, rfl, rfl, rfl, rfl, rfl⟩

theorem writes_modifyNet (f : Network → Network) : Writes P (modifyNet f) :=
  .of_silent fun _ => ⟨rfl, rfl, rfl, rfl, rfl, rfl, rfl⟩

theorem writes_metric (f : Client → MetricStore → MetricStore) : Writes P (metric f) :=
  .of_silent fun _ => ⟨rfl, rfl, rfl, rfl, rfl, rfl, rfl⟩

theorem writes_mark (m : BudgetMark) : Writes P (mark m) :=
  .of_silent fun _ => ⟨rfl, rfl, rfl, rfl, rfl, rfl, rfl⟩

theorem writes_noteConnack (p : Connack) : Writes P (noteConnack p) :=
  .of_silent fun _ => ⟨rfl, rfl, rfl, rfl, rfl, rfl, rfl⟩

theorem writes_remoteAddr : Writes P remoteAddr :=
  .of_silent fun _ => ⟨rfl, rfl, rfl, rfl, rfl, rfl, rfl⟩

theorem writes_closeLink (x : Nat) : Writes P (closeLink x) :=
  .of_silent fun _ => ⟨rfl, rfl, rfl, rfl, rfl, rfl, rfl⟩

/-- A change of the client that keeps its setup. -/
theorem writes_modifyClient {f : Client → Client}
    (hf : ∀ w : World, KeepsSetup w { w with client := f w.client }) : Writes P (modifyClient f) :=
  .of_silent fun w => ⟨rfl, rfl, hf w⟩

/-- A change of the trace that keeps the writes and the acknowledgments taken. -/
theorem writes_record {f : Trace → Trace} (hf : ∀ t, (f t).sent = t.sent ∧ (f t).taken = t.taken) :
    Writes P (record f) :=
  .of_silent fun w => ⟨(hf w.trace).1, (hf w.trace).2, rfl, rfl, rfl, rfl, rfl⟩

theorem writes_log (l : LogLevel) (msg : String) (attrs : Doc.Fields) : Writes P (log l msg attrs) :=
  .of_silent fun w => by
    rw [log_run]
    exact ⟨rfl, rfl, rfl, rfl, rfl, rfl, rfl⟩

theorem writes_emit (e : ClientEvent) : Writes P (emit e) := by
  unfold emit
  exact (writes_client).bind fun _ => .ite (writes_record fun _ => by exact ⟨rfl, rfl⟩) (.pure _)

theorem writes_setState (s : ClientState) : Writes P (setState s) := by
  unfold setState
  refine (writes_client).bind fun _ => .ite (.pure _) ?_
  exact (writes_log _ _ _).bind fun _ =>
    (writes_modifyClient fun _ => ⟨rfl, rfl, rfl, rfl, rfl⟩).bind fun _ => writes_metric _

theorem writes_dropConn (target : Option Nat) : Writes P (dropConn target) := by
  unfold dropConn
  refine (writes_client).bind fun c => ?_
  refine .ite ((writes_modifyClient fun _ => ⟨rfl, rfl, rfl, rfl, rfl⟩).bind fun _ => ?_) ?_
  -- either way the link named, or else the current one, is closed if there is one
  all_goals
    split
    · exact writes_closeLink _
    · exact .pure _

theorem writes_readPacket (conn : Nat) (timeout : Int) : Writes P (readPacket conn timeout) := by
  unfold readPacket
  refine (writes_client).bind fun c => (writes_get).bind fun w => ?_
  split
  · refine .ite (.pure _) ((writes_modifyNet _).bind fun _ => ?_)
    split
    · exact (writes_metric _).bind fun _ => .pure _
    · exact .ite (.ite (.pure _) (.ite (.pure _) ((writes_sleep _).bind fun _ => .pure _))) (.pure _)
  · exact .pure _

theorem writes_handleConnack (p : Connack) : Writes P (handleConnack p) := by
  unfold handleConnack
  refine (writes_noteConnack p).bind fun _ => ?_
  refine .ite ((writes_setState _).bind fun _ => (writes_dropConn _).bind fun _ =>
    (writes_log _ _ _).bind fun _ => .pure _) ?_
  exact (writes_now).bind fun _ => (writes_setState _).bind fun _ => (writes_client).bind fun _ =>
    (writes_modifyClient fun _ => ⟨rfl, rfl, rfl, rfl, rfl⟩).bind fun _ => (writes_mark _).bind fun _ =>
    (writes_remoteAddr).bind fun _ => (writes_log _ _ _).bind fun _ => (writes_emit _).bind fun _ =>
    .pure _

end Silent

/-! ## Writing -/

/-- Writing a packet keeps the codec, the settings and the acknowledgments taken. -/
theorem writePacket_keeps (conn : Nat) (p : Packet) (w : World) :
    KeepsSetup w ((writePacket conn p).run w).2 ∧
      ((writePacket conn p).run w).2.trace.taken = w.trace.taken := by
  unfold writePacket
  simp only [StateT.run_bind, client_run, pure_bind]
  cases w.client.codec.encode w.client.sendCap (some p) with
  | error e => exact ⟨.refl w, rfl⟩
  | ok bytes =>
    simp only
    rcases hres : w.net.write conn bytes with ⟨written, r, net⟩
    cases written <;> cases r <;>
      exact ⟨⟨by simp [hres, packetSent], by simp [hres, packetSent], by simp [hres, packetSent],
        by simp [hres, packetSent], by simp [hres, packetSent]⟩, by simp [hres, packetSent]⟩

theorem writes_writePacket (conn : Nat) (p : Packet) : Writes (· = p) (writePacket conn p) := by
  intro w
  obtain ⟨kept, took⟩ := writePacket_keeps conn p w
  refine ⟨kept, took, [p], by simp, .write w conn p ?_⟩
  exact congrArg InboundView.sent (writePacket_inbound conn p w)

theorem writes_reply (conn : Nat) (p : Packet) : Writes (· = p) (reply conn p) := by
  unfold reply
  refine (writes_writePacket _ _).bind fun _ => ?_
  split
  · exact writes_log _ _ _
  · exact .pure _

/-! ## The reader writes only answers -/

theorem writes_answer {P : Packet → Prop} (conn : Nat) (p : Packet) (hp : P p) :
    Writes P (reply conn p) :=
  (writes_reply conn p).mono fun _ h => h ▸ hp

/-- Replacing the network of the world just read keeps what follows writing as it does. -/
theorem Writes.set_net_bind {P : Packet → Prop} {α : Type} {w : World} {n : Network}
    {f : Unit → Sim α} (hf : Writes P (f ())) :
    KeepsSetup w ((((set { w with net := n } : Sim Unit)) >>= f).run w).2 ∧
      ((((set { w with net := n } : Sim Unit)) >>= f).run w).2.trace.taken = w.trace.taken ∧
      ∃ ps, (∀ p ∈ ps, P p) ∧ Recorded w ((((set { w with net := n } : Sim Unit)) >>= f).run w).2 ps := by
  have run : (((set { w with net := n } : Sim Unit) >>= f).run w).2 = ((f ()).run { w with net := n }).2 :=
    rfl
  obtain ⟨kept, took, ps, hps, rs, hsent, hrs⟩ := hf { w with net := n }
  rw [run]
  exact ⟨⟨kept.codec, kept.options, kept.subs, kept.ids, kept.running⟩, took, ps, hps, rs, hsent,
    hrs⟩

theorem writes_dispatch {P : Packet → Prop} (m : Message) : Writes P (dispatch m) := by
  unfold dispatch
  refine (writes_client).bind fun _ => ?_
  split
  exact (writes_record fun _ => by exact ⟨rfl, rfl⟩).bind fun _ => .ite (writes_log _ _ _) (.pure _)

theorem writes_pushAck {P : Packet → Prop} (a : Ack) : Writes P (pushAck a) := by
  unfold pushAck
  refine (writes_client).bind fun _ => ?_
  split
  exact (writes_modifyClient fun _ => ⟨rfl, rfl, rfl, rfl, rfl⟩).bind fun _ =>
    .ite (writes_log _ _ _) (.pure _)

theorem writes_handlePublish (conn : Nat) (p : Publish) :
    Writes Packet.FromReader (handlePublish conn p) := by
  unfold handlePublish
  have pubrec : Writes Packet.FromReader (reply conn (.pubrec p.packetId)) :=
    writes_answer _ _ (show PacketKind.pubrec ∈ PacketKind.fromReader by decide)
  have puback : Writes Packet.FromReader (reply conn (.puback p.packetId)) :=
    writes_answer _ _ (show PacketKind.puback ∈ PacketKind.fromReader by decide)
  refine .ite ?_ ((writes_dispatch _).bind fun _ => .ite puback (.pure _))
  refine (writes_client).bind fun _ => (writes_now).bind fun _ => ?_
  split
  · exact (writes_modifyClient fun _ => ⟨rfl, rfl, rfl, rfl, rfl⟩).bind fun _ => pubrec
  · exact (writes_log _ _ _).bind fun _ => pubrec

theorem writes_handlePacket (conn : Nat) (p : Packet) :
    Writes Packet.FromReader (handlePacket conn p) := by
  unfold handlePacket
  refine (writes_now).bind fun _ =>
    (writes_modifyClient fun _ => ⟨rfl, rfl, rfl, rfl, rfl⟩).bind fun _ => ?_
  cases p
  case connack a => exact (writes_handleConnack a).bind fun _ => .pure _
  case publish q => exact writes_handlePublish _ _
  case pubrel i =>
    have pubcomp : Writes Packet.FromReader (reply conn (.pubcomp i)) :=
      writes_answer _ _ (show PacketKind.pubcomp ∈ PacketKind.fromReader by decide)
    refine (writes_client).bind fun _ => ?_
    split
    refine (writes_modifyClient fun _ => ⟨rfl, rfl, rfl, rfl, rfl⟩).bind fun _ => ?_
    split
    · exact (writes_dispatch _).bind fun _ => pubcomp
    · exact pubcomp
  case pingresp => exact .pure _
  all_goals first
    | exact writes_pushAck _
    | exact writes_log _ _ _

theorem writes_awaitConnack {P : Packet → Prop} (conn : Nat) : Writes P (awaitConnack conn) := by
  unfold awaitConnack
  refine (writes_client).bind fun _ => (writes_readPacket _ _).bind fun outcome => ?_
  cases outcome with
  | idle => exact (writes_sleep _).bind fun _ => .pure _
  | failed e => exact .pure _
  | packet p =>
    refine (writes_now).bind fun _ =>
      (writes_modifyClient fun _ => ⟨rfl, rfl, rfl, rfl, rfl⟩).bind fun _ => ?_
    cases p
    case connack a => exact writes_handleConnack a
    all_goals exact .pure _

/-- A connection attempt writes the client's CONNECT and nothing else. -/
theorem writes_connectOnce : Writes Packet.FromReader connectOnce := by
  unfold connectOnce
  refine (writes_modifyClient fun _ => ⟨rfl, rfl, rfl, rfl, rfl⟩).bind fun _ =>
    (writes_mark _).bind fun _ =>
    (writes_client).bind fun c => (writes_remoteAddr).bind fun _ => (writes_log _ _ _).bind fun _ =>
    Writes.get_bind fun w => ?_
  split
  next conn net found =>
    refine Writes.set_net_bind ((writes_record fun _ => by exact ⟨rfl, rfl⟩).bind fun _ => ?_)
    split
    · exact .pure _
    · have connect : ∀ y, Writes Packet.FromReader (writePacket y (.connect c.options.connectPacket)) :=
        fun y => (writes_writePacket _ _).mono fun _ h =>
          h ▸ (show PacketKind.connect ∈ PacketKind.fromReader by decide)
      refine (connect _).bind fun r => ?_
      split
      · exact (writes_closeLink _).bind fun _ => .pure _
      · refine (writes_client).bind fun _ =>
          (writes_modifyClient fun _ => ⟨rfl, rfl, rfl, rfl, rfl⟩).bind fun _ => ?_
        dsimp only
        split
        · exact .ite ((writes_closeLink _).bind fun _ => .pure _) (.pure _)
        · exact .pure _

theorem writes_connectBlockingLoop (lastErr : Option Failure) (fuel : Nat) :
    Writes Packet.FromReader (connectBlockingLoop lastErr fuel) := by
  induction fuel generalizing lastErr with
  | zero => exact .pure _
  | succ fuel ih =>
    unfold connectBlockingLoop
    refine (writes_client).bind fun c => .ite ?_ ?_
    · exact (writes_setState _).bind fun _ => (writes_mark _).bind fun _ =>
        (writes_log _ _ _).bind fun _ => .pure _
    · refine (writes_connectOnce).bind fun r => ?_
      extract_lets retry
      -- a failed attempt logs, waits the reconnect delay and tries again
      have retrying : ∀ err, Writes Packet.FromReader (retry err) := fun err =>
        (writes_remoteAddr).bind fun _ => (writes_log _ _ _).bind fun _ => (writes_client).bind fun _ =>
          (writes_sleep _).bind fun _ => ih _
      split
      · exact (Writes.pure _).bind retrying
      · refine (writes_awaitConnack _).bind fun r => ?_
        split
        · exact .pure _
        · exact .ite (.pure _) ((writes_dropConn _).bind fun _ =>
            .ite (.pure _) ((Writes.pure _).bind retrying))

theorem writes_connectBlocking : Writes Packet.FromReader connectBlocking :=
  (writes_client).bind fun _ => writes_connectBlockingLoop _ _

theorem writes_handleFin (conn : Nat) : Writes Packet.FromReader (handleFin conn) := by
  unfold handleFin
  refine (writes_client).bind fun c => .ite (.pure _) ?_
  refine (writes_modifyClient fun _ => ⟨rfl, rfl, rfl, rfl, rfl⟩).bind fun _ => ?_
  extract_lets linked closing
  -- after closing the connection, a client that was linked reconnects at once
  have closes : ∀ u, Writes Packet.FromReader (closing u) := fun _ => (writes_closeLink _).bind fun _ => by
    refine .ite (writes_client.bind fun _ => .pure _) ?_
    refine (writes_remoteAddr).bind fun _ => (writes_log _ _ _).bind fun _ => (writes_client).bind fun _ =>
      (writes_sleep _).bind fun _ => (writes_metric _).bind fun _ => (writes_connectBlocking).bind fun r => ?_
    split
    · exact .pure _
    · exact .ite ((writes_setState _).bind fun _ => (writes_now).bind fun _ =>
        (writes_modifyClient fun _ => ⟨rfl, rfl, rfl, rfl, rfl⟩).bind fun _ => .pure _)
        ((writes_log _ _ _).bind fun _ => (writes_client).bind fun _ => .pure _)
  exact .ite ((writes_setState _).bind closes) (closes ())

theorem writes_readerTurn : Writes Packet.FromReader readerTurn := by
  unfold readerTurn
  refine (writes_client).bind fun _ => .ite (.pure _) (writes_get.bind fun _ => ?_)
  dsimp only
  split
  · exact (writes_modifyClient fun _ => ⟨rfl, rfl, rfl, rfl, rfl⟩).bind fun _ => .pure _
  · refine (writes_modifyClient fun _ => ⟨rfl, rfl, rfl, rfl, rfl⟩).bind fun _ =>
      (writes_readPacket _ _).bind fun outcome => ?_
    cases outcome with
    | idle => exact .pure _
    | packet p =>
      exact (writes_handlePacket _ p).bind fun _ => (writes_client).bind fun _ =>
        .ite ((writes_modifyClient fun _ => ⟨rfl, rfl, rfl, rfl, rfl⟩).bind fun _ => .pure _) (.pure _)
    | failed e =>
      refine .ite ((writes_log _ _ _).bind fun _ => .pure _)
        (.ite ((writes_log _ _ _).bind fun _ => .pure _) ?_)
      exact (writes_log _ _ _).bind fun _ =>
        (writes_modifyClient fun _ => ⟨rfl, rfl, rfl, rfl, rfl⟩).bind fun _ =>
        (writes_handleFin _).bind fun _ =>
          .ite ((writes_modifyClient fun _ => ⟨rfl, rfl, rfl, rfl, rfl⟩).bind fun _ => .pure _) (.pure _)

theorem writes_pumpFor (fuel : Nat) : Writes Packet.FromReader (pumpFor fuel) := by
  induction fuel with
  | zero => exact .pure _
  | succ fuel ih =>
    refine (writes_readerTurn).bind fun turn => ?_
    cases turn with
    | blocked => exact .pure _
    | progressed => exact ih

/-- The reader, run until it waits, writes only answers and CONNECT. -/
theorem writes_pump : Writes Packet.FromReader pump := writes_pumpFor _

end Sim

/-! ## Copies and acknowledgments -/

@[simp] theorem Packet.kind_markDup (p : Packet) : p.markDup.kind = p.kind := by
  cases p <;> rfl

/-- Marking a packet as sent before twice marks it once. -/
@[simp] theorem Packet.markDup_markDup (p : Packet) : p.markDup.markDup = p.markDup := by
  cases p <;> rfl

/-- The packet an exchange writes at its attempt `n`, counting from one: the retries of an
exchange that marks them write the packet marked as sent before. -/
def Packet.copyAt (dupOnRetry : Bool) (p : Packet) (n : Nat) : Packet :=
  if dupOnRetry && decide (1 < n) then p.markDup else p

/-- The copies that `k` attempts from attempt `n` on write. -/
def Packet.copies (dupOnRetry : Bool) (p : Packet) : Nat → Nat → List Packet
  | _, 0 => []
  | n, k + 1 => p.copyAt dupOnRetry n :: p.copies dupOnRetry (n + 1) k

@[simp] theorem Packet.kind_copyAt (dupOnRetry : Bool) (p : Packet) (n : Nat) :
    (p.copyAt dupOnRetry n).kind = p.kind := by
  unfold Packet.copyAt
  split <;> simp

/-- A retry goes on with the copy it wrote, and writes what the original would. -/
theorem Packet.copyAt_copyAt (dupOnRetry : Bool) (p : Packet) {n m : Nat} (later : n < m) :
    (p.copyAt dupOnRetry n).copyAt dupOnRetry m = p.copyAt dupOnRetry m := by
  unfold Packet.copyAt
  cases dupOnRetry <;> by_cases hn : 1 < n <;> by_cases hm : 1 < m <;> simp [hn, hm]; omega

theorem Packet.copies_copyAt (dupOnRetry : Bool) (p : Packet) (n : Nat) :
    ∀ k, (p.copyAt dupOnRetry n).copies dupOnRetry (n + 1) k = p.copies dupOnRetry (n + 1) k := by
  -- every copy the retry writes comes after attempt `n`
  suffices later : ∀ k m, n < m →
      (p.copyAt dupOnRetry n).copies dupOnRetry m k = p.copies dupOnRetry m k from
    fun k => later k (n + 1) (Nat.lt_succ_self n)
  intro k
  induction k with
  | zero => intro m _; rfl
  | succ k ih =>
    intro m later
    simp only [Packet.copies, Packet.copyAt_copyAt dupOnRetry p later, ih (m + 1) (by omega)]

/-- The copies a marking exchange writes from its first attempt: the packet, then the packet
marked as sent before. -/
theorem Packet.copies_first (p : Packet) (k : Nat) :
    p.copies true 1 (k + 1) = p :: List.replicate k p.markDup := by
  suffices later : ∀ k m, 1 < m → p.copies true m k = List.replicate k p.markDup by
    simp [Packet.copies, Packet.copyAt, later k 2 (by decide)]
  intro k
  induction k with
  | zero => intro m _; rfl
  | succ k ih =>
    intro m later
    simp [Packet.copies, Packet.copyAt, later, ih (m + 1) (by omega), List.replicate_succ]

/-- The copies an exchange that does not mark its retries writes: the packet itself. -/
theorem Packet.copies_unmarked (p : Packet) (n k : Nat) :
    p.copies false n k = List.replicate k p := by
  induction k generalizing n with
  | zero => rfl
  | succ k ih => simp [Packet.copies, Packet.copyAt, ih, List.replicate_succ]

/-- A waiter takes only an acknowledgment of the kind and identifier it asked for. -/
theorem AckQueue.take_some {q : AckQueue} {k : PacketKind} {i : UInt16} {a : Ack}
    (h : (q.take k i).1 = some a) : a.kind = k ∧ a.packetId = i := by
  revert h
  unfold AckQueue.take
  cases rest : q.items.dropWhile fun a => !(a.kind == k && a.packetId == i) with
  | nil => simp
  | cons b r =>
    simp only [Option.some.injEq]
    rintro rfl
    -- the first acknowledgment kept is the first that matches
    have first := List.head_dropWhile_not (fun a => !(a.kind == k && a.packetId == i))
      (l := q.items) (by rw [rest]; exact List.cons_ne_nil _ _)
    simpa only [rest, List.head_cons, Bool.not_eq_false', Bool.and_eq_true, beq_iff_eq] using first

/-! ## Writing one copy -/

namespace Sim

/-- The failures a write can end with: the packet did not encode into the send buffer, the
connection was closed, or the network refused the write. -/
def WriteCut (codec : Codec) (cap : Nat) (q : Packet) (e : Failure) : Prop :=
  codec.encode cap (some q) = .error e ∨ e = .because .sendFailed closedConnection ∨
    e = .because .sendFailed writeRefused

theorem Network.write_error {n : Network} {conn : Nat} {b : Bytes} {e : Failure}
    (h : (n.write conn b).2.1 = .error e) : e = closedConnection ∨ e = writeRefused := by
  unfold Network.write at h
  split at h
  · exact .inl (Except.error.inj h).symm
  · split at h
    · exact .inl (Except.error.inj h).symm
    · split at h
      · exact .inr (Except.error.inj h).symm
      · split at h
        · cases h
        · split at h <;> cases h

theorem writePacket_error (conn : Nat) (p : Packet) (w : World) {e : Failure}
    (h : ((writePacket conn p).run w).1 = .error e) :
    WriteCut w.client.codec w.client.sendCap p e := by
  unfold writePacket at h
  simp only [StateT.run_bind, client_run, pure_bind] at h
  cases henc : w.client.codec.encode w.client.sendCap (some p) with
  | error f =>
    rw [henc] at h
    exact .inl (henc.trans (congrArg Except.error (Except.error.inj h)))
  | ok bytes =>
    rcases hres : w.net.write conn bytes with ⟨written, r, net⟩
    cases r with
    | error f =>
      have refused := Network.write_error (show (w.net.write conn bytes).2.1 = .error f by rw [hres])
      have he : e = .because .sendFailed f := by
        cases written <;> simp [henc, hres] at h <;> exact (Except.error.inj h).symm
      rcases refused with rfl | rfl
      · exact .inr (.inl he)
      · exact .inr (.inr he)
    | ok u => cases written <;> simp [henc, hres, packetSent] at h

/-- Sending a copy writes it on the current connection, if there is one, and lets the reader
run; a failure is that of the write, or the want of a connection. -/
theorem send_writes (q : Packet) (w : World) :
    KeepsSetup w ((send q).run w).2 ∧ ((send q).run w).2.trace.taken = w.trace.taken ∧
      ∃ (written : Bool) (ps : List Packet), written = w.client.conn.isSome ∧
      Recorded w ((send q).run w).2 ((if written then [q] else []) ++ ps) ∧ (∀ r ∈ ps, r.FromReader) ∧
      (written = false → ((send q).run w).1 = .error (.because .sendFailed (.of .disconnected))) ∧
      ∀ e, ((send q).run w).1 = .error e → written = true →
        WriteCut w.client.codec w.client.sendCap q e := by
  unfold send
  rw [client_bind_run]
  cases hconn : w.client.conn with
  | none =>
    exact ⟨.refl w, rfl, false, [], rfl, by simpa using Recorded.refl w, by simp, fun _ => rfl, by simp⟩
  | some x =>
    -- the write, then the reader's turn
    have result : ((writeAndPump x q).run w).1 = ((writePacket x q).run w).1 := rfl
    have after : ((writeAndPump x q).run w).2 = (pump.run ((writePacket x q).run w).2).2 := rfl
    dsimp only
    rw [result, after]
    obtain ⟨kept₁, took₁⟩ := writePacket_keeps x q w
    have sent₁ : ((writePacket x q).run w).2.trace.sent = w.trace.sent ++ w.writtenBy x q :=
      congrArg InboundView.sent (writePacket_inbound x q w)
    obtain ⟨kept₂, took₂, ps, hps, recorded₂⟩ := writes_pump ((writePacket x q).run w).2
    refine ⟨kept₁.trans kept₂, took₂.trans took₁, true, ps, rfl, ?_, hps, by simp,
      fun e he _ => writePacket_error x q w he⟩
    simpa using (Recorded.write w x q sent₁).trans kept₁.codec kept₁.sendCap recorded₂

/-! ## One exchange -/

/-- The failures that cut an exchange short: the client was closed or gave up before a retry, it
had no connection, or the write of one of its copies failed. -/
def ExchangeCut (codec : Codec) (cap : Nat) (copies : List Packet) (e : Failure) : Prop :=
  e = .of .clientClosed ∨ e = .of .reconnectFailed ∨ e = .because .sendFailed (.of .disconnected) ∨
    ∃ q ∈ copies, WriteCut codec cap q e

/-- How an exchange waiting for an acknowledgment of kind `expect` for identifier `id`, allowed
`fuel` attempts, ends after writing `k` copies: with an acknowledgment of that kind and
identifier, after a copy; with the acknowledgment timeout, after all its attempts; or cut short. -/
def ExchangeEnds (expect : PacketKind) (id : UInt16) (attempts : Int) (fuel k : Nat)
    (cut : Failure → Prop) (r : Except Failure Ack) : Prop :=
  (∃ a, r = .ok a ∧ a.kind = expect ∧ a.packetId = id ∧ 0 < k) ∨
    (r = .error (.ackTimeout expect.code id attempts) ∧ k = fuel) ∨ (∃ e, r = .error e ∧ cut e)

/-- What a run of an exchange of `p`, from attempt `n` and allowed `fuel` attempts, shows from `w`
to `out`: it keeps the setup; the acknowledgment it returns, and no other, is noted as taken; it
writes some packets `ps`, in which those of `p`'s kind are its first `k` copies and the others
are the reader's; from its first attempt, a client with a connection writes at least one copy;
and it ends as `ExchangeEnds` says. -/
def ExchangeRun (expect : PacketKind) (id : UInt16) (attempts : Int) (fuel : Nat)
    (dupOnRetry : Bool) (n : Nat) (p : Packet) (w : World) (out : Except Failure Ack × World) : Prop :=
  KeepsSetup w out.2 ∧ out.2.trace.taken = w.trace.taken ++ out.1.toOption.toList ∧
    ∃ ps k, k ≤ fuel ∧ Recorded w out.2 ps ∧ (n ≤ 1 → 0 < fuel → w.client.conn.isSome → 0 < k) ∧
    ps.filter (·.kind == p.kind) = p.copies dupOnRetry n k ∧
    (∀ q ∈ ps, q.kind ≠ p.kind → q.FromReader) ∧
    ExchangeEnds expect id attempts fuel k
      (ExchangeCut w.client.codec w.client.sendCap (p.copies dupOnRetry n k)) out.1

theorem filter_fromReader {k : PacketKind} (own : k ∉ PacketKind.fromReader) {rs : List Packet}
    (hrs : ∀ r ∈ rs, r.FromReader) : rs.filter (·.kind == k) = [] := by
  refine List.filter_eq_nil_iff.mpr fun r hr same => own ?_
  have : r.kind = k := by simpa using same
  exact this ▸ hrs r hr

/-- An action that writes nothing keeps the setup, the records and the acknowledgments taken. -/
theorem silent_run {α : Type} {x : Sim α} (hx : Writes (fun _ => False) x) (w : World) :
    KeepsSetup w (x.run w).2 ∧ (x.run w).2.trace.sent = w.trace.sent ∧
      (x.run w).2.trace.taken = w.trace.taken := by
  obtain ⟨kept, took, ps, hps, rs, hsent, hrs⟩ := hx w
  have none : ps = [] := List.eq_nil_iff_forall_not_mem.mpr fun p hp => hps p hp
  subst none
  rw [WrittenAs.nil_iff] at hrs
  subst hrs
  exact ⟨kept, by simpa using hsent, took⟩

theorem ExchangeCut.mono {codec : Codec} {cap : Nat} {copies copies' : List Packet} {e : Failure}
    (h : ExchangeCut codec cap copies e) (sub : ∀ q ∈ copies, q ∈ copies') :
    ExchangeCut codec cap copies' e := by
  rcases h with h | h | h | ⟨q, hq, cut⟩
  · exact .inl h
  · exact .inr (.inl h)
  · exact .inr (.inr (.inl h))
  · exact .inr (.inr (.inr ⟨q, sub q hq, cut⟩))

/-- An exchange that ends after a retry ends as the whole exchange may, one copy later. -/
theorem ExchangeEnds.retry {expect : PacketKind} {id : UInt16} {attempts : Int} {fuel k : Nat}
    {cut cut' : Failure → Prop} {r : Except Failure Ack} (h : ExchangeEnds expect id attempts fuel k cut' r)
    (hcut : ∀ e, cut' e → cut e) : ExchangeEnds expect id attempts (fuel + 1) (k + 1) cut r := by
  rcases h with ⟨a, rfl, kind, ident, _⟩ | ⟨rfl, rfl⟩ | ⟨e, rfl, cut⟩
  · exact .inl ⟨a, rfl, kind, ident, Nat.succ_pos k⟩
  · exact .inr (.inl ⟨rfl, rfl⟩)
  · exact .inr (.inr ⟨e, rfl, hcut e cut⟩)

section Attempts

variable {expect : PacketKind} {id : UInt16} {attempts : Int} {fuel : Nat} {dupOnRetry : Bool}
  {n : Nat} {p : Packet} {w w' : World}

/-- An attempt that wrote its copy, found no acknowledgment and retried: the retry's run is a run
of the whole exchange, one copy longer. -/
theorem ExchangeRun.retry (own : p.kind ∉ PacketKind.fromReader) {rs : List Packet}
    (hrs : ∀ r ∈ rs, r.FromReader) (kept : KeepsSetup w w') (took : w'.trace.taken = w.trace.taken)
    (recorded : Recorded w w' (p.copyAt dupOnRetry n :: rs)) {out : Except Failure Ack × World}
    (rest : ExchangeRun expect id attempts fuel dupOnRetry (n + 1) (p.copyAt dupOnRetry n) w' out) :
    ExchangeRun expect id attempts (fuel + 1) dupOnRetry n p w out := by
  obtain ⟨kept', took', ps, k, hk, recorded', -, copies, readers, ends⟩ := rest
  rw [Packet.kind_copyAt, Packet.copies_copyAt] at copies
  rw [Packet.kind_copyAt] at readers
  refine ⟨kept.trans kept', took ▸ took', (p.copyAt dupOnRetry n :: rs) ++ ps, k + 1, by omega,
    recorded.trans kept.codec kept.sendCap recorded', fun _ _ _ => Nat.succ_pos k, ?_, ?_, ends.retry fun e cut => ?_⟩
  · rw [List.filter_append, List.filter_cons_of_pos (by simp), filter_fromReader own hrs, copies]
    rfl
  · intro q hq other
    rcases List.mem_append.mp hq with hq | hq
    · rcases List.mem_cons.mp hq with rfl | hq
      · exact absurd (Packet.kind_copyAt _ _ _) other
      · exact hrs q hq
    · exact readers q hq other
  · -- the retry's copies are the exchange's after the first
    rw [Packet.copies_copyAt, kept.codec, kept.sendCap] at cut
    exact cut.mono fun q hq => List.mem_cons_of_mem _ hq

/-- An attempt that ended the exchange after writing `written` copies and nothing more. -/
theorem ExchangeRun.stop {rs : List Packet} (hrs : ∀ r ∈ rs, r.FromReader) (own : p.kind ∉ PacketKind.fromReader)
    (kept : KeepsSetup w w') (written : Bool) (first : n ≤ 1 → w.client.conn.isSome → written = true)
    (recorded : Recorded w w' ((if written then [p.copyAt dupOnRetry n] else []) ++ rs))
    {r : Except Failure Ack} (took : w'.trace.taken = w.trace.taken ++ r.toOption.toList)
    (ends : ExchangeEnds expect id attempts (fuel + 1) (if written then 1 else 0)
      (ExchangeCut w.client.codec w.client.sendCap (p.copies dupOnRetry n (if written then 1 else 0))) r) :
    ExchangeRun expect id attempts (fuel + 1) dupOnRetry n p w (r, w') := by
  refine ⟨kept, took, _, _, by split <;> omega, recorded, fun hn _ hc => by simp [first hn hc], ?_, ?_,
    ends⟩
  · rw [List.filter_append, filter_fromReader own hrs]
    cases written <;> simp [Packet.copies]
  · intro q hq other
    rcases List.mem_append.mp hq with hq | hq
    · cases written <;> simp only [if_true, Bool.false_eq_true, if_false, List.mem_cons,
        List.not_mem_nil, or_false] at hq
      exact absurd (hq ▸ Packet.kind_copyAt _ _ _) other
    · exact hrs q hq

end Attempts

theorem run_bind_eq {α β : Type} (x : Sim α) (f : α → Sim β) (w : World) :
    (x >>= f).run w = (f (x.run w).1).run (x.run w).2 := rfl

/-- A check of usability changes nothing, and fails only for a closed client or one that gave
up. -/
theorem usable_run (w : World) :
    (usable.run w).2 = w ∧ ∀ e, (usable.run w).1 = .error e →
      (w.client.closed = true ∧ e = .of .clientClosed) ∨
        (w.client.state = .disconnect ∧ e = .of .reconnectFailed) := by
  unfold usable
  simp only [StateT.run_bind, client_run, pure_bind]
  split_ifs with closed gaveUp
  · exact ⟨rfl, fun e he => .inl ⟨closed, (Except.error.inj he).symm⟩⟩
  · exact ⟨rfl, fun e he => .inr ⟨by simpa using gaveUp, (Except.error.inj he).symm⟩⟩
  · exact ⟨rfl, fun e he => by cases he⟩

theorem Recorded.then_silent {w w₂ w' : World} {ps : List Packet} (h : Recorded w w₂ ps)
    (same : w'.trace.sent = w₂.trace.sent) : Recorded w w' ps := by
  obtain ⟨rs, hs, hw⟩ := h
  exact ⟨rs, same.trans hs, hw⟩

/-- What is recorded after a silent change that keeps the codec and the send buffer is recorded
from before it. -/
theorem Recorded.after_silent (w : World) {w₁ w' : World} {ps : List Packet}
    (same : w₁.trace.sent = w.trace.sent) (codec : w₁.client.codec = w.client.codec)
    (cap : w₁.client.sendCap = w.client.sendCap) (h : Recorded w₁ w' ps) : Recorded w w' ps := by
  simpa using (Recorded.of_sent same).trans codec cap h

/-- Every attempt of an exchange writes one copy, lets the reader run and checks the queue; an
exchange ends with the first acknowledgment it finds, or when a write fails, the client became
unusable, or the attempts ran out. -/
theorem sendAndWaitFrom_exchange (expect : PacketKind) (timeout : Int) (dupOnRetry : Bool)
    (attempts : Int) (id : UInt16) (fuel : Nat) :
    ∀ (n : Nat) (p : Packet), p.kind ∉ PacketKind.fromReader → ∀ w : World,
      ExchangeRun expect id attempts fuel dupOnRetry n p w
        ((sendAndWaitFrom expect timeout dupOnRetry attempts id fuel n p).run w) := by
  induction fuel with
  | zero =>
    intro n p _ w
    exact ⟨.refl w, (List.append_nil _).symm, [], 0, le_rfl, .refl w, fun _ none => absurd none (lt_irrefl 0),
      rfl, by simp, .inr (.inl ⟨rfl, rfl⟩)⟩
  | succ fuel ih =>
    intro n p own w
    unfold sendAndWaitFrom
    extract_lets once marked
    -- one attempt: the copy for attempt `n` is written, the reader runs, the queue is checked
    have attempt : ∀ w₁, KeepsSetup w w₁ → w₁.trace.sent = w.trace.sent →
        w₁.trace.taken = w.trace.taken → w₁.client.conn = w.client.conn →
        ExchangeRun expect id attempts (fuel + 1) dupOnRetry n p w
          ((once (p.copyAt dupOnRetry n)).run w₁) := by
      intro w₁ kept₁ same₁ took₁ linked₁
      obtain ⟨keptS, tookS, written, rs, linkedS, recS, hrs, unwritten, failed⟩ :=
        send_writes (p.copyAt dupOnRetry n) w₁
      have first : n ≤ 1 → w.client.conn.isSome → written = true := fun _ hc => by
        rw [linkedS, linked₁, hc]
      rw [show (once (p.copyAt dupOnRetry n)).run w₁ = _ from run_bind_eq _ _ _]
      generalize (send (p.copyAt dupOnRetry n)).run w₁ = s at keptS tookS recS unwritten failed
      obtain ⟨r, w₂⟩ := s
      have kept₂ : KeepsSetup w w₂ := kept₁.trans keptS
      have took₂ : w₂.trace.taken = w.trace.taken := tookS.trans took₁
      have rec₂ : Recorded w w₂ ((if written then [p.copyAt dupOnRetry n] else []) ++ rs) := by
        simpa using Recorded.after_silent w same₁ kept₁.codec kept₁.sendCap recS
      cases r with
      | error e =>
        refine ExchangeRun.stop hrs own kept₂ written first rec₂
          (by rw [took₂]; exact (List.append_nil _).symm)
          (.inr (.inr ⟨e, rfl, ?_⟩))
        cases written
        · exact .inr (.inr (.inl (Except.error.inj (unwritten rfl))))
        · have cut := failed e rfl rfl
          rw [kept₁.codec, kept₁.sendCap] at cut
          exact .inr (.inr (.inr ⟨_, by simp [Packet.copies], cut⟩))
      | ok u =>
        obtain rfl : written = true := by
          cases written
          · exact absurd (unwritten rfl) (by simp)
          · rfl
        -- the check takes the first matching acknowledgment from the queue
        rw [client_bind_run]
        rcases ht : w₂.client.acks.take expect id with ⟨found, q⟩
        dsimp only
        rw [run_bind_eq, modifyClient_run]
        cases found with
        | some a =>
          -- the acknowledgment is noted as taken and counted, and the exchange is over
          obtain ⟨kind, ident⟩ := AckQueue.take_some (show (w₂.client.acks.take expect id).1 = some a by rw [ht])
          dsimp only
          rw [← bind_assoc, run_bind_eq]
          exact ExchangeRun.stop hrs own (kept₂.trans (by exact ⟨rfl, rfl, rfl, rfl, rfl⟩)) true
            (fun _ _ => rfl) (Recorded.then_silent rec₂ (by rfl)) (by rw [← took₂]; rfl)
            (.inl ⟨a, rfl, kind, ident, Nat.one_pos⟩)
        | none =>
          -- nothing yet: wait, log and try again with the copy just written
          obtain ⟨kept₄, same₄, took₄⟩ := silent_run ((writes_sleep timeout).bind fun _ => writes_log _ _ _)
            ({ w₂ with client := { w₂.client with acks := q } } : World)
          have rec₂' : Recorded w w₂ (p.copyAt dupOnRetry n :: rs) := by simpa using rec₂
          rw [← bind_assoc, run_bind_eq]
          exact ExchangeRun.retry own hrs
            (kept₂.trans ⟨kept₄.codec, kept₄.options, kept₄.subs, kept₄.ids, kept₄.running⟩)
            (took₄.trans took₂)
            (Recorded.then_silent rec₂' same₄)
            (ih (n + 1) (p.copyAt dupOnRetry n) (by simpa using own) _)
    split
    · -- a retry first checks that the client may still be used
      rename_i retry
      rw [run_bind_eq]
      obtain ⟨same, refused⟩ := usable_run w
      generalize usable.run w = u at same refused
      obtain ⟨u, w₁⟩ := u
      subst same
      cases u with
      | error e =>
        exact ExchangeRun.stop (show ∀ r ∈ ([] : List Packet), r.FromReader by simp) own (.refl _) false
          (fun hn => absurd retry (by omega))
          (by simpa using Recorded.refl _)
          (List.append_nil _).symm
          (.inr (.inr ⟨e, rfl, (refused e rfl).elim (fun h => .inl h.2) fun h => .inr (.inl h.2)⟩))
      | ok u =>
        have copy : marked = p.copyAt dupOnRetry n := by
          simp only [marked, Packet.copyAt, retry, decide_true, Bool.and_true]
        obtain ⟨kept₂, same₂, took₂⟩ := silent_run (writes_metric _) w₁
        rw [run_bind_eq, copy]
        exact attempt _ kept₂ same₂ took₂ rfl
    · rename_i first
      have copy : p.copyAt dupOnRetry n = p := by
        simp [Packet.copyAt, show ¬ 1 < n by omega]
      have := attempt w (.refl w) rfl rfl rfl
      rwa [copy] at this

/-- An exchange as an operation starts it: from the first attempt, with the publish retry budget
as its attempts, waiting for the packet's own identifier. -/
theorem sendAndWait_exchange (p : Packet) (expect : PacketKind) (timeout : Int) (dupOnRetry : Bool)
    (own : p.kind ∉ PacketKind.fromReader) (w : World) :
    ExchangeRun expect (p.packetId?.getD 0) w.client.options.publishRetries
      w.client.options.publishRetries.toNat dupOnRetry 1 p w ((sendAndWait p expect timeout dupOnRetry).run w) :=
  sendAndWaitFrom_exchange expect timeout dupOnRetry _ _ _ 1 p own w

end Sim

end Mqtt
