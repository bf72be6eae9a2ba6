import Mqtt.Topic
import Mqtt.Packet.Message
/-! # The subscription table

A bounded table of subscriptions in the order they were added, at most one per filter. Each
entry may carry a handler, which receives the messages whose topic the entry's filter matches.
The handler type is a parameter: the table only stores handlers and reports which ones to run.
-/

namespace Mqtt

/-- A subscription: a filter, the QoS asked for, and possibly a handler. -/
structure Subscription.Entry (H : Type) where
  filter : Bytes
  qos : UInt8 := 0
  handler : Option H := none
  deriving DecidableEq, Repr, Inhabited

/-- The number of subscriptions a table holds when no other bound is given. -/
def defaultMaxSubscriptions : Nat := 4

/-- A bounded table of subscriptions, in the order they were added. -/
structure SubscriptionTable (H : Type) where
  entries : List (Subscription.Entry H) := []
  capacity : Nat := defaultMaxSubscriptions
  deriving Repr, Inhabited

namespace SubscriptionTable

variable {H : Type}

/-- An empty table for `max` entries; a bound of zero or less means the default of four. -/
def create (max : Int) : SubscriptionTable H :=
  { entries := [], capacity := if max ≤ 0 then defaultMaxSubscriptions else max.toNat }

/-- The entry for a filter. -/
def get? (t : SubscriptionTable H) (f : Bytes) : Option (Subscription.Entry H) :=
  t.entries.find? (·.filter == f)

/-- Whether a filter has an entry. -/
def contains (t : SubscriptionTable H) (f : Bytes) : Bool :=
  t.entries.any (·.filter == f)

/-- Adds an entry: an empty filter is refused, a filter already present leaves the table as it
is and reports `false`, and a full table is refused. -/
def add (t : SubscriptionTable H) (e : Subscription.Entry H) :
    Except Failure (Bool × SubscriptionTable H) :=
  if e.filter.isEmpty then .error (.of .missingArgument)
  else if t.contains e.filter then .ok (false, t)
  else if t.entries.length ≥ t.capacity then .error (.of .noCapacity)
  else .ok (true, { t with entries := t.entries ++ [e] })

/-- Removes the entry of a filter, reporting whether there was one. -/
def remove (t : SubscriptionTable H) (f : Bytes) : Bool × SubscriptionTable H :=
  if t.contains f then (true, { t with entries := t.entries.filter (·.filter != f) })
  else (false, t)

/-- Empties the table. -/
def clear (t : SubscriptionTable H) : SubscriptionTable H := { t with entries := [] }

/-- Replaces the handler of a filter's entry. -/
def setHandler (t : SubscriptionTable H) (f : Bytes) (h : Option H) : SubscriptionTable H :=
  { t with entries := t.entries.map fun e => if e.filter == f then { e with handler := h } else e }

/-- The entries whose filter matches a topic, in table order. -/
def matching (t : SubscriptionTable H) (topic : Bytes) : List (Subscription.Entry H) :=
  t.entries.filter fun e => Topic.filterMatches e.filter topic

/-- Dispatching a message: how many entries match its topic, and the handlers to run, in order. -/
def dispatch (t : SubscriptionTable H) (m : Message) : Nat × List H :=
  let ms := t.matching m.topic
  (ms.length, ms.filterMap (·.handler))

end SubscriptionTable

end Mqtt
