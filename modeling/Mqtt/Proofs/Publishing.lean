import Mqtt.Proofs.Exchanges
import Mqtt.Script.Session
/-! # Publishing with acknowledgments

A publish with QoS 1 writes its PUBLISH until it takes the broker's PUBACK; one with QoS 2 writes
it until it takes PUBREC, then writes PUBREL until it takes PUBCOMP. Each stage is an exchange
(`Sim.sendAndWaitFrom_exchange`) allowed the publish retry budget as its attempts, and both wait
for the identifier the client hands out next. Before any of that a publish may refuse: the client
is closed or gave up, the topic is no topic name, or the rate limit has no token in time.

* `Sim.PublishWrites`: the packets a publish writes, by kind: the copies of its PUBLISH, then
  those of its PUBREL, with only the reader's answers besides.
* `Sim.AckedEnds`: how its stages end, and the acknowledgments they take. From it follow that
  the stages succeed exactly when they took the acknowledgments that complete the publish
  (`Sim.AckedEnds.ok_iff`), and that a PUBREL is written only after PUBREC was taken.
* `Sim.publish_acknowledged`: what every publish of QoS 1 or 2 does, from any world; it is put
  together from the run of the preparation (`Sim.preparePublish_run`) and of the stages
  (`Sim.publishAcked_run`).
-/

namespace Mqtt

/-- The PUBLISH of a message under a packet identifier, not marked as sent before. -/
def Message.publishUnder (m : Message) (id : UInt16) : Publish :=
  { topic := m.topic, payload := m.payload, qos := m.qos, retain := m.retain, packetId := id }

namespace Sim

/-- Why a publish refuses before it writes anything: the client is closed or gave up, the topic
is no topic name, or the client's rate limit has no token within the wait. -/
def PublishRefused (c : Client) (m : Message) (e : Failure) : Prop :=
  (c.closed = true ∧ e = .of .clientClosed) ∨ (c.state = .disconnect ∧ e = .of .reconnectFailed) ∨
    Topic.validateName m.topic = .error e ∨
    (c.flow.limited = true ∧
      e = .detail .timedOut "publish rate limit: rate: Wait(n=1) would exceed context deadline")

/-- The packets a publish of `p` writes, with at most `retries` of each kind it writes itself:
among `ps`, the first `k` copies of its PUBLISH; among `qs`, after them, `j` copies of the PUBREL
of its identifier; besides these only the reader's answers. -/
def PublishWrites (retries : Int) (p : Publish) (ps qs : List Packet) (k j : Nat) : Prop :=
  k ≤ retries.toNat ∧ j ≤ retries.toNat ∧
    ps.filter (·.kind == .publish) = (Packet.publish p).copies true 1 k ∧
    (∀ q ∈ ps, q.kind ≠ .publish → q.FromReader) ∧
    qs.filter (·.kind == .pubrel) = (Packet.pubrel p.packetId).copies false 1 j ∧
    (∀ q ∈ qs, q.kind ≠ .pubrel → q.FromReader)

/-- How the stages of a publish of `p` from client `c` end, having written `k` PUBLISHes and `j`
PUBRELs and taken the acknowledgments `taken`. A client with a connection writes the first
PUBLISH. The PUBLISH exchange waits for PUBACK at QoS 1 and for PUBREC at QoS 2; if it fails, so
does the publish, with nothing taken and no PUBREL written. At QoS 1 the PUBACK it took ends the
publish; at QoS 2 the PUBREL exchange follows the PUBREC, waits for PUBCOMP, and ends the
publish as it ends. -/
def AckedEnds (c : Client) (p : Publish) (k j : Nat) (taken : List Ack) (r : Except Failure Unit) :
    Prop :=
  (0 < c.options.publishRetries → c.conn.isSome → 0 < k) ∧
    ∃ first, ExchangeEnds (if p.qos = 1 then .puback else .pubrec) p.packetId
        c.options.publishRetries c.options.publishRetries.toNat k
        (ExchangeCut c.codec c.sendCap ((Packet.publish p).copies true 1 k)) first ∧
      match first with
      | .error e => r = .error e ∧ j = 0 ∧ taken = []
      | .ok a =>
        if p.qos = 1 then r = .ok () ∧ j = 0 ∧ taken = [a]
        else ∃ second, ExchangeEnds .pubcomp p.packetId c.options.publishRetries
            c.options.publishRetries.toNat j
            (ExchangeCut c.codec c.sendCap ((Packet.pubrel p.packetId).copies false 1 j)) second ∧
          r = second.map (fun _ => ()) ∧ taken = a :: second.toOption.toList

/-- The acknowledgments that complete a publish of QoS `qos` under `id`, by kind and identifier:
PUBACK at QoS 1, PUBREC and then PUBCOMP at QoS 2. -/
def publishAcks (qos : UInt8) (id : UInt16) : List (PacketKind × UInt16) :=
  if qos = 1 then [(.puback, id)] else [(.pubrec, id), (.pubcomp, id)]

/-- The kind and identifier of an acknowledgment. -/
def Ack.key (a : Ack) : PacketKind × UInt16 := (a.kind, a.packetId)

section Ends

variable {c : Client} {p : Publish} {k j : Nat} {taken : List Ack} {r : Except Failure Unit}

/-- The stages succeed exactly when they took the acknowledgments that complete the publish. -/
theorem AckedEnds.ok_iff (h : AckedEnds c p k j taken r) :
    r = .ok () ↔ taken.map Ack.key = publishAcks p.qos p.packetId := by
  obtain ⟨-, first, ends, rest⟩ := h
  rcases ends with ⟨a, rfl, kind, ident, -⟩ | ⟨rfl, -⟩ | ⟨e, rfl, -⟩
  · by_cases q1 : p.qos = 1
    · -- QoS 1: the PUBACK was the last acknowledgment
      simp only [q1, if_true] at rest kind
      obtain ⟨rfl, -, rfl⟩ := rest
      simp [publishAcks, q1, Ack.key, kind, ident]
    · -- QoS 2: the PUBCOMP exchange decides
      simp only [q1, if_false] at rest kind
      obtain ⟨second, ends₂, rfl, rfl⟩ := rest
      rcases ends₂ with ⟨b, rfl, kind₂, ident₂, -⟩ | ⟨rfl, -⟩ | ⟨e, rfl, -⟩ <;>
        simp [publishAcks, Ack.key, Except.toOption, Except.map, *]
  all_goals
    obtain ⟨rfl, -, rfl⟩ := rest
    unfold publishAcks
    split <;> simp

/-- A PUBREL is written only after the PUBREC of the publish was taken. -/
theorem AckedEnds.pubrec_of_released (h : AckedEnds c p k j taken r) (released : 0 < j) :
    taken.head?.map Ack.key = some (.pubrec, p.packetId) := by
  obtain ⟨-, first, ends, rest⟩ := h
  rcases ends with ⟨a, rfl, kind, ident, -⟩ | ⟨rfl, -⟩ | ⟨e, rfl, -⟩
  · by_cases q1 : p.qos = 1
    · simp only [q1, if_true] at rest
      omega
    · simp only [q1, if_false] at rest kind
      obtain ⟨second, -, -, rfl⟩ := rest
      simp [Ack.key, kind, ident]
  all_goals
    obtain ⟨-, rfl, -⟩ := rest
    omega

end Ends

/-- Preparing a publish changes nothing; it refuses for a reason of `PublishRefused` or a QoS
above 2, and otherwise gives the message's PUBLISH. -/
theorem preparePublish_run (m : Message) (w : World) :
    ((preparePublish (some m)).run w).2 = w ∧
      (∀ e, ((preparePublish (some m)).run w).1 = .error e →
        PublishRefused w.client m e ∨ (2 < m.qos ∧ e = .of .invalidQos)) ∧
      ∀ p, ((preparePublish (some m)).run w).1 = .ok p → p = m.publishUnder 0 := by
  unfold preparePublish
  dsimp only
  rw [run_bind_eq]
  obtain ⟨same, refused⟩ := usable_run w
  generalize usable.run w = u at same refused
  obtain ⟨u, w'⟩ := u
  subst same
  cases u with
  | error e =>
    refine ⟨rfl, fun e' he => ?_, fun p hp => by cases hp⟩
    obtain rfl := Except.error.inj he
    rcases refused e rfl with closed | gaveUp
    · exact .inl (.inl closed)
    · exact .inl (.inr (.inl gaveUp))
  | ok u =>
    dsimp only
    cases named : Topic.validateName m.topic with
    | error e =>
      refine ⟨rfl, fun e' he => ?_, fun p hp => by cases hp⟩
      obtain rfl := Except.error.inj he
      exact .inl (.inr (.inr (.inl named)))
    | ok v =>
      dsimp only
      split_ifs with big
      · exact ⟨rfl, fun e he => .inr ⟨big, (Except.error.inj he).symm⟩, fun p hp => by cases hp⟩
      · refine ⟨rfl, fun e he => ?_, fun p hp => (Except.ok.inj hp).symm⟩
        cases he

theorem nextId_run (w : World) :
    nextId.run w = (w.client.ids.next.1, { w with client := { w.client with ids := w.client.ids.next.2 } }) :=
  rfl

/-- The stages of a publish, from any world: under the identifier the client hands out next,
they write as `PublishWrites` says, note what they take, and end as `AckedEnds` says. -/
theorem publishAcked_run (p : Publish) (timeout : Int) (w : World) :
    ∃ ps qs k j taken, Recorded w ((publishAcked p timeout).run w).2 (ps ++ qs) ∧
      ((publishAcked p timeout).run w).2.trace.taken = w.trace.taken ++ taken ∧
      PublishWrites w.client.options.publishRetries { p with packetId := w.client.ids.next.1 } ps qs k j ∧
      AckedEnds w.client { p with packetId := w.client.ids.next.1 } k j taken
        ((publishAcked p timeout).run w).1 := by
  unfold publishAcked
  rw [run_bind_eq, nextId_run]
  dsimp only
  have ownPublish : PacketKind.publish ∉ PacketKind.fromReader := by decide
  have ownPubrel : PacketKind.pubrel ∉ PacketKind.fromReader := by decide
  -- the PUBLISH exchange runs from the world with the identifier handed out
  by_cases q1 : p.qos = 1
  · -- QoS 1: the PUBACK ends the publish
    rw [if_pos (by simp [q1]), run_bind_eq]
    have stage := sendAndWait_exchange (.publish { p with packetId := w.client.ids.next.1 }) .puback
      timeout true ownPublish { w with client := { w.client with ids := w.client.ids.next.2 } }
    generalize (sendAndWait _ .puback timeout true).run _ = s at stage
    obtain ⟨r, w₂⟩ := s
    obtain ⟨-, took, ps, k, hk, recorded, first, copies, readers, ends⟩ := stage
    refine ⟨ps, [], k, 0, r.toOption.toList, by simpa using Recorded.after_silent w rfl rfl rfl recorded,
      took,
      ⟨hk, Nat.zero_le _, copies, readers, rfl, by simp⟩,
      fun hR hc => first le_rfl (show 0 < w.client.options.publishRetries.toNat by omega) hc, r,
      by rw [if_pos q1]; exact ends, ?_⟩
    cases r with
    | error e => exact ⟨rfl, rfl, rfl⟩
    | ok a =>
      dsimp only
      rw [if_pos q1]
      exact ⟨rfl, rfl, rfl⟩
  · -- QoS 2: after the PUBREC, the PUBREL exchange waits for PUBCOMP
    rw [if_neg (by simp [q1]), run_bind_eq]
    have stage₁ := sendAndWait_exchange (.publish { p with packetId := w.client.ids.next.1 }) .pubrec
      timeout true ownPublish { w with client := { w.client with ids := w.client.ids.next.2 } }
    generalize (sendAndWait _ .pubrec timeout true).run _ = s at stage₁
    obtain ⟨r₁, w₂⟩ := s
    obtain ⟨kept₁, took₁, ps, k, hk, rec₁, first, copies₁, readers₁, ends₁⟩ := stage₁
    have firstCopy : 0 < w.client.options.publishRetries → w.client.conn.isSome → 0 < k :=
      fun hR hc => first le_rfl (show 0 < w.client.options.publishRetries.toNat by omega) hc
    cases r₁ with
    | error e =>
      exact ⟨ps, [], k, 0, [], by simpa using Recorded.after_silent w rfl rfl rfl rec₁, took₁,
        ⟨hk, Nat.zero_le _, copies₁, readers₁, rfl, by simp⟩, firstCopy, .error e,
        by rw [if_neg q1]; exact ends₁, rfl, rfl, rfl⟩
    | ok a =>
      dsimp only
      rw [run_bind_eq]
      have stage₂ := sendAndWait_exchange (.pubrel w.client.ids.next.1) .pubcomp timeout false
        ownPubrel w₂
      generalize (sendAndWait _ .pubcomp timeout false).run w₂ = s at stage₂
      obtain ⟨r₂, w₃⟩ := s
      obtain ⟨-, took₂, qs, j, hj, rec₂, -, copies₂, readers₂, ends₂⟩ := stage₂
      rw [kept₁.options] at hj ends₂
      rw [kept₁.codec, kept₁.sendCap] at ends₂
      have ledger : w₃.trace.taken = w.trace.taken ++ a :: r₂.toOption.toList := by
        dsimp only at took₁ took₂
        rw [took₂, took₁]
        simp [Except.toOption]
      refine ⟨ps, qs, k, j, a :: r₂.toOption.toList,
        Recorded.after_silent w rfl rfl rfl (rec₁.trans kept₁.codec kept₁.sendCap rec₂), ledger,
        ⟨hk, hj, copies₁, readers₁, copies₂, readers₂⟩, firstCopy, .ok a,
        by rw [if_neg q1]; exact ends₁, ?_⟩
      dsimp only
      rw [if_neg q1]
      exact ⟨r₂, ends₂, rfl, rfl⟩

/-- A publish of QoS 1 or 2, from any world, either refuses before writing anything, for a reason
of `PublishRefused`, or runs its stages. -/
theorem publish_run (m : Message) (timeout : Int) (w : World) (acked : m.qos = 1 ∨ m.qos = 2) :
    ∃ ps qs k j taken, Recorded w ((publish (some m) timeout).run w).2 (ps ++ qs) ∧
      ((publish (some m) timeout).run w).2.trace.taken = w.trace.taken ++ taken ∧
      PublishWrites w.client.options.publishRetries (m.publishUnder w.client.ids.next.1) ps qs k j ∧
      ((k = 0 ∧ j = 0 ∧ taken = [] ∧
          ∃ e, ((publish (some m) timeout).run w).1 = .error e ∧ PublishRefused w.client m e) ∨
        AckedEnds w.client (m.publishUnder w.client.ids.next.1) k j taken
          ((publish (some m) timeout).run w).1) := by
  have nothing : PublishWrites w.client.options.publishRetries (m.publishUnder w.client.ids.next.1)
      [] [] 0 0 :=
    ⟨Nat.zero_le _, Nat.zero_le _, rfl, by simp, rfl, by simp⟩
  unfold publish
  rw [run_bind_eq]
  obtain ⟨same, refused, prepared⟩ := preparePublish_run m w
  generalize (preparePublish (some m)).run w = s at same refused prepared
  obtain ⟨r, w'⟩ := s
  dsimp only at same
  subst same
  cases r with
  | error e =>
    refine ⟨[], [], 0, 0, [], Recorded.refl _, (List.append_nil _).symm, nothing,
      .inl ⟨rfl, rfl, rfl, e, rfl, ?_⟩⟩
    rcases refused e rfl with reason | ⟨big, -⟩
    · exact reason
    · rcases acked with q | q <;> rw [q] at big <;> exact absurd big (by decide)
  | ok p =>
    obtain rfl := prepared p rfl
    dsimp only
    -- a publish of QoS 1 or 2 goes on to its stages
    have noQos0 : ((m.publishUnder 0).qos == 0) = false := by
      rcases acked with q | q <;> simp [Message.publishUnder, q]
    simp only [noQos0, Bool.false_eq_true, if_false]
    rw [client_bind_run]
    generalize (if timeout ≤ 0 then w'.client.options.recvTimeout else timeout) = timeout'
    split
    · -- the rate limit gives a token, after a wait, or refuses
      rename_i limited
      rw [run_bind_eq]
      split
      · exact ⟨[], [], 0, 0, [], Recorded.refl _, (List.append_nil _).symm, nothing,
          .inl ⟨rfl, rfl, rfl, _, rfl, .inr (.inr (.inr ⟨limited, rfl⟩))⟩⟩
      · rw [← bind_assoc, run_bind_eq]
        obtain ⟨ps, qs, k, j, taken, recorded, took, writes, ends⟩ :=
          publishAcked_run (m.publishUnder 0) _ ((modifyClient _ >>= fun _ => sleep _).run w').2
        exact ⟨ps, qs, k, j, taken, Recorded.after_silent w' rfl rfl rfl recorded, took, writes,
          .inr ends⟩
    · obtain ⟨ps, qs, k, j, taken, recorded, took, writes, ends⟩ :=
        publishAcked_run (m.publishUnder 0) _ w'
      exact ⟨ps, qs, k, j, taken, recorded, took, writes, .inr ends⟩

/-- The outbound publish protocol at QoS 1 and 2, from any world and whatever the broker answers.
A publish either refuses before writing anything, for a reason of `PublishRefused`, or, under the
identifier the client hands out next, writes as `PublishWrites` says and ends as `AckedEnds`
says: the same PUBLISH each time, marked as sent before from the second copy on, then the PUBREL
of its identifier, at most the retry budget of each; PUBREL only once PUBREC was taken; success
exactly when the acknowledgments that complete it were taken; and the acknowledgment timeout of a
stage whose every attempt went unanswered. -/
theorem publish_acknowledged (m : Message) (timeout : Int) (w : World) (acked : m.qos = 1 ∨ m.qos = 2) :
    ∃ ps qs k j taken, Recorded w ((publish (some m) timeout).run w).2 (ps ++ qs) ∧
      ((publish (some m) timeout).run w).2.trace.taken = w.trace.taken ++ taken ∧
      PublishWrites w.client.options.publishRetries (m.publishUnder w.client.ids.next.1) ps qs k j ∧
      (((publish (some m) timeout).run w).1 = .ok () ↔
        taken.map Ack.key = publishAcks m.qos w.client.ids.next.1) ∧
      (0 < j → taken.head?.map Ack.key = some (.pubrec, w.client.ids.next.1)) ∧
      ((k = 0 ∧ j = 0 ∧ taken = [] ∧
          ∃ e, ((publish (some m) timeout).run w).1 = .error e ∧ PublishRefused w.client m e) ∨
        AckedEnds w.client (m.publishUnder w.client.ids.next.1) k j taken
          ((publish (some m) timeout).run w).1) := by
  obtain ⟨ps, qs, k, j, taken, recorded, took, writes, ends⟩ := publish_run m timeout w acked
  refine ⟨ps, qs, k, j, taken, recorded, took, writes, ?_, ?_, ends⟩
  · rcases ends with ⟨-, -, rfl, e, failed, -⟩ | stages
    · rw [failed]
      unfold publishAcks
      split <;> simp
    · exact stages.ok_iff
  · rcases ends with ⟨-, rfl, -⟩ | stages
    · intro released
      omega
    · exact stages.pubrec_of_released

/-- A QoS 1 publish from a started client whose broker answers with PUBACK, and from one whose
broker never answers: the first takes PUBACK 1 and succeeds; the second fails once each of the
three attempts the retry budget allows went unanswered. -/
theorem publish_acknowledged_answeredOrSilent :
    let m : Message := { topic := Bytes.ofString "a/b", payload := Bytes.ofString "x", qos := 1 }
    match Session.world { steps := [] },
        Session.world { steps := [], broker := { replies := [(.puback, false)] } } with
    | .ok answering, .ok silent =>
      let w₁ := (start.run answering).2
      let w₂ := (start.run silent).2
      ((publish (some m) 0).run w₁).1 = .ok () ∧
      ((publish (some m) 0).run w₁).2.trace.taken = w₁.trace.taken ++ [⟨.puback, 1, []⟩] ∧
      ((publish (some m) 0).run w₂).1 = .error (.ackTimeout 4 1 3) ∧
      (m.qos = 1 ∨ m.qos = 2) ∧
      (∃ ps qs k j taken, Recorded w₁ ((publish (some m) 0).run w₁).2 (ps ++ qs) ∧
        ((publish (some m) 0).run w₁).2.trace.taken = w₁.trace.taken ++ taken ∧
        PublishWrites w₁.client.options.publishRetries (m.publishUnder w₁.client.ids.next.1) ps qs k j ∧
        (((publish (some m) 0).run w₁).1 = .ok () ↔
          taken.map Ack.key = publishAcks m.qos w₁.client.ids.next.1) ∧
        (0 < j → taken.head?.map Ack.key = some (.pubrec, w₁.client.ids.next.1)) ∧
        ((k = 0 ∧ j = 0 ∧ taken = [] ∧
            ∃ e, ((publish (some m) 0).run w₁).1 = .error e ∧ PublishRefused w₁.client m e) ∨
          AckedEnds w₁.client (m.publishUnder w₁.client.ids.next.1) k j taken
            ((publish (some m) 0).run w₁).1)) ∧
      (∃ ps qs k j taken, Recorded w₂ ((publish (some m) 0).run w₂).2 (ps ++ qs) ∧
        ((publish (some m) 0).run w₂).2.trace.taken = w₂.trace.taken ++ taken ∧
        PublishWrites w₂.client.options.publishRetries (m.publishUnder w₂.client.ids.next.1) ps qs k j ∧
        (((publish (some m) 0).run w₂).1 = .ok () ↔
          taken.map Ack.key = publishAcks m.qos w₂.client.ids.next.1) ∧
        (0 < j → taken.head?.map Ack.key = some (.pubrec, w₂.client.ids.next.1)) ∧
        ((k = 0 ∧ j = 0 ∧ taken = [] ∧
            ∃ e, ((publish (some m) 0).run w₂).1 = .error e ∧ PublishRefused w₂.client m e) ∨
          AckedEnds w₂.client (m.publishUnder w₂.client.ids.next.1) k j taken
            ((publish (some m) 0).run w₂).1))
    | _, _ => False := by
  intro m
  -- both publishes, evaluated once on the clients the two sessions build and start
  have ran : ((Session.world { steps := [] }).toOption.map fun w₀ =>
      let r := (publish (some m) 0).run (start.run w₀).2
      (r.1, r.2.trace.taken.drop (start.run w₀).2.trace.taken.length)) =
      some (.ok (), [⟨.puback, 1, []⟩]) ∧
    ((Session.world { steps := [], broker := { replies := [(.puback, false)] } }).toOption.map
      fun w₀ => ((publish (some m) 0).run (start.run w₀).2).1) = some (.error (.ackTimeout 4 1 3)) := by
    decide +kernel
  obtain ⟨answered, unanswered⟩ := ran
  cases built₁ : Session.world { steps := [] } with
  | error e =>
    rw [built₁] at answered
    cases answered
  | ok answering =>
    cases built₂ : Session.world { steps := [], broker := { replies := [(.puback, false)] } } with
    | error e =>
      rw [built₂] at unanswered
      cases unanswered
    | ok silent =>
      rw [built₁] at answered
      rw [built₂] at unanswered
      obtain ⟨succeeded, took⟩ := Prod.mk.inj (Option.some.inj answered)
      -- the publish only appends to what was taken, and what it appends is PUBACK 1
      obtain ⟨-, -, -, -, taken, -, appended, -⟩ :=
        publish_acknowledged m 0 (start.run answering).2 (.inl rfl)
      rw [appended, List.drop_left] at took
      refine ⟨succeeded, by rw [appended, took], Option.some.inj unanswered, .inl rfl,
        publish_acknowledged m 0 _ (.inl rfl), publish_acknowledged m 0 _ (.inl rfl)⟩

end Sim

end Mqtt
