import Mqtt.Packet.Kind
/-! # The acknowledgment queue

Acknowledgments read from the broker wait in a bounded first-in first-out queue until the
operation that expects them takes them. An operation waiting for one acknowledgment discards
the others it finds before it.
-/

namespace Mqtt

/-- An acknowledgment: its kind, its packet identifier and, for SUBACK, the return codes. -/
structure Ack where
  kind : PacketKind
  packetId : UInt16
  codes : List UInt8 := []
  deriving DecidableEq, Repr, Inhabited

/-- The queue's default capacity. -/
def defaultAckQueueSize : Nat := 4

/-- A bounded queue of acknowledgments, oldest first. -/
structure AckQueue where
  items : List Ack := []
  capacity : Nat := defaultAckQueueSize
  deriving DecidableEq, Repr, Inhabited

namespace AckQueue

/-- An empty queue; a size of zero or less means the default. -/
def create (size : Int) : AckQueue :=
  { capacity := if size ≤ 0 then defaultAckQueueSize else size.toNat }

/-- Adds an acknowledgment at the back, unless the queue is full. -/
def push (q : AckQueue) (a : Ack) : Bool × AckQueue :=
  if q.items.length < q.capacity then (true, { q with items := q.items ++ [a] }) else (false, q)

/-- Takes acknowledgments from the front until one of the kind and identifier asked for: it is
returned, and those before it are gone; without one the queue ends empty. -/
def take (q : AckQueue) (k : PacketKind) (i : UInt16) : Option Ack × AckQueue :=
  let rest := q.items.dropWhile fun a => !(a.kind == k && a.packetId == i)
  match rest with
  | a :: r => (some a, { q with items := r })
  | [] => (none, { q with items := [] })

/-- Empties the queue. -/
def drain (q : AckQueue) : AckQueue := { q with items := [] }

end AckQueue

end Mqtt
