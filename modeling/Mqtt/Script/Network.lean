import Mqtt.Script.Broker
import Mqtt.Codec
/-! # A scripted network

Connections to a scripted broker, numbered from 1 in the order they are opened. Each holds the
bytes the broker sent that the client has not read yet, and whether either side closed it.
Every write of the client is read back by the broker with the codec's defaults and answered at
once on the same connection, unless the broker has closed it.
-/

namespace Mqtt

/-- One connection. -/
structure Link where
  id : Nat
  /-- Bytes from the broker not yet read by the client. -/
  inbound : Bytes := []
  closedByClient : Bool := false
  closedByBroker : Bool := false
  deriving DecidableEq, Repr, Inhabited

/-- Whether neither side has closed a connection. -/
def Link.isOpen (l : Link) : Bool := !l.closedByClient && !l.closedByBroker

/-- What a write of the client left behind: the packet the broker read, bytes it could not
read, or a write the network refused. -/
inductive Written where
  | packet (conn : Nat) (p : Packet)
  | undecodable (conn : Nat) (bytes : Bytes) (f : Failure)
  | refused (conn : Nat) (bytes : Bytes)
  deriving Repr, Inhabited

/-- The failure of a refused write. -/
def writeRefused : Failure := .plain "write refused"

/-- The failure of using a connection after closing it. -/
def closedConnection : Failure := .plain "use of closed network connection"

/-- The failure of a refused connection attempt. -/
def dialRefused : Failure := .plain "dial refused"

/-- The connections and the broker behind them. -/
structure Network where
  links : List Link := []
  nextId : Nat := 1
  broker : BrokerScript := {}
  deriving Repr, Inhabited

namespace Network

/-- A connection by number. -/
def get? (n : Network) (id : Nat) : Option Link := n.links.find? (·.id == id)

/-- Changes a connection. -/
def modify (n : Network) (id : Nat) (f : Link → Link) : Network :=
  { n with links := n.links.map fun l => if l.id == id then f l else l }

/-- Queues bytes from the broker on a connection. -/
def deliver (n : Network) (id : Nat) (b : Bytes) : Network :=
  n.modify id fun l => { l with inbound := l.inbound ++ b }

/-- The broker closes a connection. -/
def closeByBroker (n : Network) (id : Nat) : Network :=
  n.modify id fun l => { l with closedByBroker := true }

/-- The client closes a connection. -/
def closeByClient (n : Network) (id : Nat) : Network :=
  n.modify id fun l => { l with closedByClient := true }

/-- The newest connection that neither side has closed. -/
def newestOpen (n : Network) : Option Nat :=
  (n.links.filter Link.isOpen).getLast?.map (·.id)

/-- A connection attempt: the number of the new connection, or none if it was refused. -/
def dial (n : Network) : Option Nat × Network :=
  let (ok, b) := n.broker.dial
  let n := { n with broker := b }
  if ok then (some n.nextId, { n with links := n.links ++ [{ id := n.nextId }], nextId := n.nextId + 1 })
  else (none, n)

/-- Carries out the broker's answer on a connection. -/
def apply (n : Network) (id : Nat) : BrokerAction → Network
  | .none => n
  | .send b => n.deliver id b
  | .close => n.closeByBroker id

/-- A write of the client on a connection: what it left behind, whether it succeeded, and the
network after the broker answered it. -/
def write (n : Network) (id : Nat) (b : Bytes) : Option Written × Except Failure Unit × Network :=
  match n.get? id with
  | none => (none, .error closedConnection, n)
  | some l =>
    if l.closedByClient then (none, .error closedConnection, n)
    else if n.broker.failWrites then (some (.refused id b), .error writeRefused, n)
    else
      match ({} : Codec).decode b with
      | .error (f, _) => (some (.undecodable id b f), .ok (), n)
      | .ok (p, _) =>
        if l.closedByBroker then (some (.packet id p), .ok (), n)
        else
          let (act, br) := n.broker.respond p
          (some (.packet id p), .ok (), { n with broker := br }.apply id act)

/-- Takes `k` bytes from the front of a connection's unread bytes. -/
def consume (n : Network) (id : Nat) (k : Nat) : Network :=
  n.modify id fun l => { l with inbound := l.inbound.drop k }

end Network

end Mqtt
