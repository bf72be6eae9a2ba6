/-! # Client events, commands and states

The events a client reports to its event handler, the commands its control entry point takes,
and the states of its connection, each numbered as callers see them.
-/

namespace Mqtt

/-- Events reported to the event handler. -/
inductive ClientEvent where
  | link
  | online
  | offline
  | heartbeat
  deriving DecidableEq, Repr, Inhabited

/-- The name of an event. -/
def ClientEvent.name : ClientEvent → String
  | .link => "link"
  | .online => "online"
  | .offline => "offline"
  | .heartbeat => "heartbeat"

/-- The name of an event by its number, counting from 1. -/
def ClientEvent.nameOfCode : Int → String
  | 1 => "link"
  | 2 => "online"
  | 3 => "offline"
  | 4 => "heartbeat"
  | _ => "unknown"

/-- The name of a control command by its number, counting from 1. -/
def commandName : Int → String
  | 1 => "event_cb"
  | 2 => "subscription_cb"
  | 3 => "set_keepalive"
  | 4 => "get_state"
  | 5 => "stop_reader"
  | 6 => "disconnect"
  | _ => "unknown"

/-- The states of a client's connection. -/
inductive ClientState where
  | idle
  | linking
  | linked
  | unlink
  | unlinkLinking
  | disconnect
  deriving DecidableEq, Repr, Inhabited

/-- The name of a state. -/
def ClientState.name : ClientState → String
  | .idle => "idle"
  | .linking => "linking"
  | .linked => "linked"
  | .unlink => "unlink"
  | .unlinkLinking => "unlink_linking"
  | .disconnect => "disconnect"

/-- The number of a state, counting from 0 in the order above. -/
def ClientState.number : ClientState → Nat
  | .idle => 0
  | .linking => 1
  | .linked => 2
  | .unlink => 3
  | .unlinkLinking => 4
  | .disconnect => 5

/-- The name of a state by its number, counting from 0. -/
def ClientState.nameOfCode : Int → String
  | 0 => "idle"
  | 1 => "linking"
  | 2 => "linked"
  | 3 => "unlink"
  | 4 => "unlink_linking"
  | 5 => "disconnect"
  | _ => "unknown"

end Mqtt
