/-! # Keep-alive

The keep-alive timer decides at each tick whether the client should send a PINGREQ, and notices
when the broker has stopped answering. Times are milliseconds; `none` is a time before every
other, the state before the first reset.

A ping is due when the broker has been quiet for an interval after the client's last packet,
or when half the keep-alive announced in CONNECT has passed since the last ping. When the client
has sent something that the broker has not answered within the send timeout, the tick counts a
miss, and after `max` misses the link is expired.
-/

namespace Mqtt

/-- What a keep-alive tick asks for. -/
inductive KeepAliveAction where
  | idle
  | ping
  | expired
  deriving DecidableEq, Repr, Inhabited

/-- The name of an action. -/
def KeepAliveAction.name : KeepAliveAction → String
  | .idle => "idle"
  | .ping => "ping"
  | .expired => "expired"

/-- A time, or `none` for a time before every other. -/
abbrev Instant := Option Int

namespace Instant

/-- Whether `a` comes before `b`. -/
def before : Instant → Instant → Bool
  | none, some _ => true
  | some a, some b => a < b
  | _, none => false

/-- A time moved on by `d` milliseconds; a time before every other stays so. -/
def add (a : Instant) (d : Int) : Instant := a.map (· + d)

end Instant

/-- Keep-alive settings and state. -/
structure KeepAlive where
  interval : Int
  connectKeepAlive : Int
  sendTimeout : Int
  max : Int
  lastUplink : Instant := none
  nextUplink : Instant := none
  lastPing : Instant := none
  count : Int := 0
  deriving DecidableEq, Repr, Inhabited

namespace KeepAlive

/-- Starts over at `now`, as after a CONNACK. -/
def reset (k : KeepAlive) (now : Int) : KeepAlive :=
  { k with lastUplink := some now, nextUplink := some (now + k.interval), lastPing := some now,
           count := 0 }

/-- The broker was heard from at `now`. -/
def received (k : KeepAlive) (now : Int) : KeepAlive :=
  { k with nextUplink := some (now + k.interval), count := 0 }

/-- The client sent a packet at `now`. -/
def sent (k : KeepAlive) (now : Int) : KeepAlive := { k with lastUplink := some now }

/-- The client sent a PINGREQ at `now`. -/
def pinged (k : KeepAlive) (now : Int) : KeepAlive :=
  { k with lastUplink := some now, lastPing := some now }

/-- Changes the interval, counting it from `now`. -/
def setInterval (k : KeepAlive) (d now : Int) : KeepAlive :=
  { k with interval := d, nextUplink := some (now + d) }

/-- Whether half the announced keep-alive has passed since the last ping, with the half kept
exact by comparing doubled times. -/
def halfKeepAlivePassed (k : KeepAlive) (now : Int) : Bool :=
  k.connectKeepAlive > 0 &&
    match k.lastPing with
    | none => true
    | some p => 2 * p + k.connectKeepAlive < 2 * now

/-- One tick at `now`. -/
def check (k : KeepAlive) (now : Int) : KeepAliveAction × KeepAlive :=
  let idle := !(Instant.before (some now) k.nextUplink) && Instant.before k.lastUplink k.nextUplink
  if idle || k.halfKeepAlivePassed now then (.ping, k)
  else if !(Instant.before k.lastUplink k.nextUplink) &&
      Instant.before (k.lastUplink.add k.sendTimeout) (some now) then
    let k' := { k with count := k.count + 1 }
    (if k'.count ≥ k.max then .expired else .ping, k')
  else (.idle, k)

end KeepAlive

end Mqtt
