import Mathlib.Data.List.TakeWhile
import Mqtt.Proofs.Inbound
import Mqtt.Proofs.Resubscription
/-! # What the acknowledgment queue keeps

The reader offers each acknowledgment it reads to a bounded queue, and an operation waiting for
one takes the first of its kind and identifier, discarding those before it. Offering only ever
appends, or drops the newcomer when the queue is full; so an acknowledgment the queue accepted is
still there when the waiter looks, and the waiter gets one of that kind and identifier
(`ack_returned_unless_full`). What the queue does not promise is room. Only a waiter discards
acknowledgments, so those that arrive while no operation waits (late ones, duplicates, those of
asynchronous publishes) fill it, and an acknowledgment offered to a full queue is dropped however
fresh: the operation waiting for it times out and sends again
(`staleAcks_resendSubscribe`).
-/

namespace Mqtt

namespace AckQueue

variable (q : AckQueue) (a : Ack)

theorem push_of_room (room : q.items.length < q.capacity) :
    q.push a = (true, { q with items := q.items ++ [a] }) := by
  simp [push, room]

theorem push_of_full (full : q.capacity ≤ q.items.length) : q.push a = (false, q) := by
  simp [push, Nat.not_lt.mpr full]

@[simp] theorem capacity_push : (q.push a).2.capacity = q.capacity := by
  unfold push
  split <;> rfl

/-- Offering keeps what the queue holds, in order. -/
theorem items_prefix_push : q.items <+: (q.push a).2.items := by
  unfold push
  split
  · exact List.prefix_append _ _
  · exact List.prefix_refl _

/-- A waiter finds an acknowledgment of its kind and identifier whenever the queue holds one. -/
theorem take_found {k : PacketKind} {i : UInt16} (held : ∃ x ∈ q.items, x.kind = k ∧ x.packetId = i) :
    ∃ a, (q.take k i).1 = some a ∧ a.kind = k ∧ a.packetId = i := by
  obtain ⟨x, mem, kind, id⟩ := held
  unfold take
  cases rest : q.items.dropWhile fun a => !(a.kind == k && a.packetId == i) with
  | nil =>
    -- everything was discarded, so nothing matched, not even `x`
    have discarded := List.dropWhile_eq_nil_iff.mp rest x mem
    simp [kind, id] at discarded
  | cons b r =>
    -- the first acknowledgment kept is the first that matches
    have first := List.head_dropWhile_not (fun a => !(a.kind == k && a.packetId == i))
      (l := q.items) (by rw [rest]; exact List.cons_ne_nil _ _)
    simp only [rest, List.head_cons, Bool.not_eq_false', Bool.and_eq_true, beq_iff_eq] at first
    exact ⟨b, rfl, first⟩

end AckQueue

namespace Sim

/-- What handling one arrival does to the ack queue: a packet offers its acknowledgment, if it
carries one, and a timer cycle leaves the queue alone. -/
theorem receive_acks (conn : Nat) (arrival : Arrival) (w : World) :
    ((receive conn arrival).run w).2.client.acks =
      match arrival with
      | .packet p => match p.offeredAck with
        | some a => (w.client.acks.push a).2
        | none => w.client.acks
      | .cycle _ => w.client.acks := by
  have h := congrArg InboundView.acks (receive_inbound conn arrival w)
  cases arrival <;> exact h

/-- Over any run of arrivals the queue keeps what it held, in order, and its capacity. -/
theorem receiveAll_acks_prefix (conn : Nat) (arrivals : List Arrival) (w : World) :
    w.client.acks.items <+: ((receiveAll conn arrivals).run w).2.client.acks.items ∧
      ((receiveAll conn arrivals).run w).2.client.acks.capacity = w.client.acks.capacity := by
  refine receiveAll_preserves (P := fun w' => w.client.acks.items <+: w'.client.acks.items ∧
    w'.client.acks.capacity = w.client.acks.capacity) conn arrivals ?_
    ⟨List.prefix_refl _, rfl⟩
  intro arrival _ w' ⟨kept, capacity⟩
  rw [receive_acks]
  split
  · split
    · exact ⟨kept.trans (AckQueue.items_prefix_push _ _), by simpa using capacity⟩
    · exact ⟨kept, capacity⟩
  · exact ⟨kept, capacity⟩

end Sim

/-- The acknowledgment queue loses an acknowledgment the reader handles only when it is full.
Say the reader, in world `w`, handles a packet `p` carrying the acknowledgment `a`, then the
arrivals `after`. If the queue had room, a waiter for the kind and identifier of `a` then gets an
acknowledgment of that kind and identifier; if it was full, `a` is dropped and the queue stays as
it was. -/
theorem ack_returned_unless_full (conn : Nat) (w : World) (p : Packet) (a : Ack)
    (after : List Arrival) (offers : p.offeredAck = some a) :
    (w.client.acks.items.length < w.client.acks.capacity →
      ∃ a', (((Sim.receiveAll conn (.packet p :: after)).run w).2.client.acks.take
          a.kind a.packetId).1 = some a' ∧ a'.kind = a.kind ∧ a'.packetId = a.packetId) ∧
    (w.client.acks.capacity ≤ w.client.acks.items.length →
      ((Sim.receive conn (.packet p)).run w).2.client.acks = w.client.acks) := by
  have offer : ((Sim.receive conn (.packet p)).run w).2.client.acks = (w.client.acks.push a).2 := by
    rw [Sim.receive_acks]
    simp only [offers]
  refine ⟨fun room => ?_, fun full => ?_⟩
  · -- `a` joins the queue, and the arrivals after it only append
    have accepted : ((Sim.receive conn (.packet p)).run w).2.client.acks.items =
        w.client.acks.items ++ [a] := by
      rw [offer, AckQueue.push_of_room _ _ room]
    have kept := (Sim.receiveAll_acks_prefix conn after ((Sim.receive conn (.packet p)).run w).2).1
    rw [accepted] at kept
    exact AckQueue.take_found _ ⟨a, kept.subset (by simp), rfl, rfl⟩
  · rw [offer, AckQueue.push_of_full _ _ full]

/-- A queue of one place holding a stale PUBACK drops a fresh SUBACK. -/
theorem ack_returned_unless_full_stalePuback :
    (Packet.suback ⟨1, [0]⟩).offeredAck = some ⟨.suback, 1, [0]⟩ ∧
    let w : World := { client := { (default : Client) with acks := ⟨[⟨.puback, 7, []⟩], 1⟩ }, net := {} }
    (w.client.acks.items.length < w.client.acks.capacity →
      ∃ a', (((Sim.receiveAll 1 [.packet (.suback ⟨1, [0]⟩)]).run w).2.client.acks.take
          .suback 1).1 = some a' ∧ a'.kind = .suback ∧ a'.packetId = 1) ∧
    (w.client.acks.capacity ≤ w.client.acks.items.length →
      ((Sim.receive 1 (.packet (.suback ⟨1, [0]⟩))).run w).2.client.acks = w.client.acks) :=
  ⟨rfl, ack_returned_unless_full 1 _ (.suback ⟨1, [0]⟩) ⟨.suback, 1, [0]⟩ [] rfl⟩

/-- A client with an acknowledgment queue of one place and the one subscription `x`, whose broker
follows its CONNACK with two stale PUBACKs (7 and 8). At Start the reader queues PUBACK 7 and
drops PUBACK 8; the SUBACK to the round's SUBSCRIBE, handled well before the timeout, finds the
queue full and is dropped too. The waiter discards the stale PUBACK, times out and writes the
SUBSCRIBE again, and only the SUBACK to that second one is taken. -/
theorem staleAcks_resendSubscribe :
    ((Session.world {
        steps := []
        options := [.ackQueueSize 1]
        broker := { connacks := some [.raw [0x20, 0x02, 0x00, 0x00, 0x40, 0x02, 0x00, 0x07,
          0x40, 0x02, 0x00, 0x08]] } }).toOption.map fun w =>
      let w₁ := ((Sim.control 2 (.subscription (Bytes.ofString "x") 0)).run w).2
      let w₂ := (Sim.start.run w₁).2
      ((w₂.trace.sent.filterMap Written.packet?).filter (·.kind == .subscribe), w₂.trace.taken)) =
      some ([.subscribe ⟨1, [⟨Bytes.ofString "x", 0⟩]⟩, .subscribe ⟨1, [⟨Bytes.ofString "x", 0⟩]⟩],
        [⟨.suback, 1, [0]⟩]) := by
  decide +kernel

end Mqtt
