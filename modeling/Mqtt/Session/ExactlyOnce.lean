import Mqtt.Failure
import Mqtt.Packet.Message
/-! # Incoming QoS 2 messages

A QoS 2 message from the broker is held from its PUBLISH until the broker's PUBREL, and handed
to the application then. The tracker keeps two tables. The held messages form a map from
packet identifier to message. Beside it, a fixed number of slots pace the PUBREC resends: an
occupied slot names the identifier of a held message, the resends it has left and the deadline
of the next one, and a slot with a negative resend count is free. When a slot's deadline comes
with no resend left, the slot is freed and its message dropped.
-/

namespace Mqtt

/-- One slot of the tracker: the identifier it paces, the PUBREC resends left, and the deadline
of the next resend in milliseconds. A negative resend count marks a free slot. -/
structure PubrecSlot where
  packetId : UInt16 := 0
  retries : Int := -1
  deadline : Int := 0
  deriving DecidableEq, Repr, Inhabited

namespace PubrecSlot

/-- Whether the slot is free. -/
def free (s : PubrecSlot) : Bool := decide (s.retries < 0)

/-- The free slot. -/
def vacant : PubrecSlot := {}

end PubrecSlot

/-- The tracker: the slots, and the held messages by identifier in the order they arrived. -/
structure ExactlyOnce where
  slots : List PubrecSlot
  pending : List (UInt16 × Message)
  maxRetries : Nat
  interval : Int
  deriving Repr, Inhabited

namespace ExactlyOnce

/-- The default number of slots, resends, and milliseconds between resends. -/
def defaultSlots : Nat := 1
def defaultRetries : Nat := 3
def defaultInterval : Int := 2000

/-- A tracker with all slots free; sizes, resend counts and intervals of zero or less take their
defaults. -/
def create (size retries : Int) (interval : Int) : ExactlyOnce :=
  { slots := List.replicate (if size ≤ 0 then defaultSlots else size.toNat) PubrecSlot.vacant
    pending := []
    maxRetries := if retries ≤ 0 then defaultRetries else retries.toNat
    interval := if interval ≤ 0 then defaultInterval else interval }

/-- The message held under an identifier. -/
def lookup (t : ExactlyOnce) (i : UInt16) : Option Message :=
  (t.pending.find? (·.1 == i)).map (·.2)

/-- The number of held messages. -/
def size (t : ExactlyOnce) : Nat := t.pending.length

/-- Whether a message with this identifier is held. -/
def contains (t : ExactlyOnce) (i : UInt16) : Bool := (t.lookup i).isSome

/-- Puts a slot in the place of the first free one. -/
def occupyFirst (s : PubrecSlot) : List PubrecSlot → Option (List PubrecSlot)
  | [] => none
  | x :: rest => if x.free then some (s :: rest) else (occupyFirst s rest).map (x :: ·)

/-- Holds a message until its release: identifier zero and absent messages are refused, an
identifier already held changes nothing, and a tracker without a free slot is full. -/
def track (t : ExactlyOnce) (i : UInt16) (m : Option Message) (now : Int) :
    Except Failure ExactlyOnce :=
  match m with
  | none => .error (.of .missingArgument)
  | some msg =>
    if i == 0 then .error (.of .missingArgument)
    else if t.contains i then .ok t
    else
      match occupyFirst ⟨i, t.maxRetries, now + t.interval⟩ t.slots with
      | some s => .ok { t with slots := s, pending := t.pending ++ [(i, msg)] }
      | none => .error (.of .noCapacity)

/-- Frees the first occupied slot that paces an identifier. -/
def freeFirst (i : UInt16) : List PubrecSlot → List PubrecSlot
  | [] => []
  | x :: rest => if !x.free && x.packetId == i then PubrecSlot.vacant :: rest else x :: freeFirst i rest

/-- Releases a held message: it leaves the map, and the slot pacing it is freed. -/
def release (t : ExactlyOnce) (i : UInt16) : Option Message × ExactlyOnce :=
  match t.lookup i with
  | none => (none, t)
  | some m => (some m, { t with pending := t.pending.filter (·.1 != i), slots := freeFirst i t.slots })

/-- Drops every held message and frees every slot. -/
def clear (t : ExactlyOnce) : ExactlyOnce :=
  { t with slots := t.slots.map fun _ => PubrecSlot.vacant, pending := [] }

/-- The outcome of a resend cycle: identifiers to send PUBREC for again, and dropped messages. -/
structure Cycle where
  resend : List UInt16 := []
  dropped : List Message := []
  deriving Repr, Inhabited

/-- A resend cycle at time `now` over slots, in order, with the held messages as they stand: a
slot whose deadline has come uses up one resend and gets a new deadline, or, with none left,
is freed and its message dropped. -/
def retrySlots (interval now : Int) :
    List PubrecSlot → List (UInt16 × Message) → Cycle × List PubrecSlot × List (UInt16 × Message)
  | [], pending => ({}, [], pending)
  | s :: rest, pending =>
    if s.free || now < s.deadline then
      let (c, rest', pending') := retrySlots interval now rest pending
      (c, s :: rest', pending')
    else if s.retries - 1 < 0 then
      let lost := (pending.find? (·.1 == s.packetId)).map (·.2)
      let (c, rest', pending') := retrySlots interval now rest (pending.filter (·.1 != s.packetId))
      ({ c with dropped := lost.toList ++ c.dropped }, PubrecSlot.vacant :: rest', pending')
    else
      let (c, rest', pending') := retrySlots interval now rest pending
      ({ c with resend := s.packetId :: c.resend },
       { s with retries := s.retries - 1, deadline := now + interval } :: rest', pending')

/-- One resend cycle at time `now`. -/
def retryCycle (t : ExactlyOnce) (now : Int) : Cycle × ExactlyOnce :=
  let (c, slots, pending) := retrySlots t.interval now t.slots t.pending
  (c, { t with slots, pending })

end ExactlyOnce

end Mqtt
