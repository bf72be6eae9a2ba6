import Mqtt.WebSocket.Handshake
/-! # A WebSocket connection carrying a byte stream

Once open, the connection carries bytes: each write goes out as one binary message, and reads
return the payloads of the binary messages received, back to back, so that a read may take
part of a message and the next read the rest. A text message, a close frame or the loss of the
connection ends the stream; the error that ended it is returned by that read and every later
one. A read waits until its deadline for the next message, and fails with `i/o timeout` when
the deadline has passed or nothing arrives; such a failure does not end the stream.

Messages are taken off the connection ahead of the reads: one waits to be read and one more is
held, so after `k` reads have each taken a message, messages up to the `k + 2`th have been
taken off. Taking off a close frame answers it at once; a close frame with a code no peer may
send is answered as a protocol error instead.

Here the server reads as many messages as the client writes, then sends its scripted frames,
then either drops the connection or waits for the client's close frame and records its code.
The client writes, reads, and closes twice; closing sends a close frame unless writing has
already failed, and a write after it fails with the reason writing stopped.
-/

namespace Mqtt

namespace WebSocket

/-- A frame the server sends. -/
inductive ServerFrame where
  | binary (data : Bytes)
  | text (data : Bytes)
  | ping (data : Bytes)
  | close (code : Nat) (reason : String)
  deriving DecidableEq, Repr, Inhabited

/-- The script of an open connection. -/
structure SessionScript where
  frames : List ServerFrame := []
  writes : List Bytes := []
  /-- The size of each read. -/
  reads : List Nat := []
  readTimeoutMs : Int := 100
  /-- Whether the server drops the connection after its frames. -/
  serverDrop : Bool := false
  /-- The write deadline, in milliseconds from the start, if one is set. -/
  writeDeadlineMs : Option Int := none
  deriving Repr, Inhabited

/-- What the reads meet next: a message's payload, or the failure that ends the stream with
the close code it carries and the code the client answers with, if any. -/
inductive Delivery where
  | message (data : Bytes)
  | failure (f : Failure) (closeCode : Option Nat) (answer : Option Nat)
  deriving DecidableEq, Repr, Inhabited

/-- The name a close code is shown with. -/
def closeName : Nat → String
  | 1000 => " (normal)"
  | 1001 => " (going away)"
  | 1002 => " (protocol error)"
  | 1003 => " (unsupported data)"
  | 1005 => " (no status)"
  | 1006 => " (abnormal closure)"
  | 1007 => " (invalid payload data)"
  | 1008 => " (policy violation)"
  | 1009 => " (message too big)"
  | 1010 => " (mandatory extension missing)"
  | 1011 => " (internal server error)"
  | 1015 => " (TLS handshake error)"
  | _ => ""

/-- The text of a close: its code, the code's name and the reason. -/
def closeText (code : Nat) (reason : String) : String :=
  "websocket: close " ++ toString code ++ closeName code ++
    (if reason.isEmpty then "" else ": " ++ reason)

/-- Whether a peer may close with a code. -/
def receivableCode (c : Nat) : Bool :=
  [1000, 1001, 1002, 1003, 1007, 1008, 1009, 1010, 1011, 1012, 1013].contains c ||
    (3000 ≤ c && c ≤ 4999)

/-- The end of a stream whose connection was lost. -/
def lostDelivery : Delivery := .failure (.plain (closeText 1006 "unexpected EOF")) (some 1006) none

/-- What the reads meet, given the server's frames and whether it drops the connection after
them. Pings are answered unseen; a close frame without a code, as code 1005 has, is a close
with no status. -/
def deliveries : List ServerFrame → Bool → List Delivery
  | [], drop => if drop then [lostDelivery] else []
  | .binary d :: rest, drop => .message d :: deliveries rest drop
  | .text _ :: _, _ => [.failure (.of .textFrame) none none]
  | .ping _ :: rest, drop => deliveries rest drop
  | .close code reason :: _, _ =>
    let c := code % 65536
    if c == 1005 then [.failure (.plain (closeText 1005 "")) (some 1005) (some 1005)]
    else if receivableCode c then [.failure (.plain (closeText c reason)) (some c) (some c)]
    else [.failure (.plain ("websocket: bad close code " ++ toString c)) none (some 1002)]

/-- The client's reading state: bytes of a message not yet read, how many deliveries it has
taken, and the failure that ended the stream. -/
structure Reader where
  pending : Bytes := []
  taken : Nat := 0
  ended : Option (Failure × Option Nat) := none
  deriving Repr, Inhabited

/-- Takes deliveries until some bytes are pending or the read fails. -/
def Reader.fill (items : List Delivery) (ms : Int) : Nat → Reader → Option (Failure × Option Nat) × Reader
  | 0, r => (some (timedOut, none), r)
  | fuel + 1, r =>
    if !r.pending.isEmpty then (none, r)
    else match r.ended with
      | some e => (some e, r)
      | none =>
        if ms ≤ 0 then (some (timedOut, none), r)
        else match items[r.taken]? with
          | none => (some (timedOut, none), r)
          | some (.message d) => Reader.fill items ms fuel { r with pending := d, taken := r.taken + 1 }
          | some (.failure f c _) => (some (f, c), { r with ended := some (f, c), taken := r.taken + 1 })

/-- One read of at most `size` bytes: the bytes, or the failure and its close code. -/
def Reader.read (items : List Delivery) (ms : Int) (r : Reader) (size : Nat) :
    Except (Failure × Option Nat) Bytes × Reader :=
  match Reader.fill items ms (items.length + 1) r with
  | (some e, r') => (.error e, r')
  | (none, r') => (.ok (r'.pending.take size), { r' with pending := r'.pending.drop size })

/-- A message the server received. -/
inductive Received where
  | message (data : Bytes)
  /-- The connection ended with this close code. -/
  | closed (code : Nat)
  deriving DecidableEq, Repr, Inhabited

/-- What happened on an open connection. -/
structure SessionOutcome where
  writes : List (Except Failure Nat)
  reads : List (Except (Failure × Option Nat) Bytes)
  /-- The failure of a write after closing. -/
  afterClose : Failure
  received : List Received
  deriving Repr, Inhabited

/-- The failure of a write after a close frame was sent. -/
def closeSent : Failure := .plain "websocket: close sent"

/-- Plays a session. -/
def SessionScript.run (s : SessionScript) : SessionOutcome :=
  let writesFail := s.writeDeadlineMs.any (· ≤ 0) && !s.writes.isEmpty
  let writes := s.writes.map fun w => if writesFail then .error timedOut else .ok w.length
  let items := if writesFail then [] else deliveries s.frames s.serverDrop
  let (reads, reader) := s.reads.foldl (fun (acc : List (Except (Failure × Option Nat) Bytes) × Reader) size =>
    let (r, next) := Reader.read items s.readTimeoutMs acc.2 size
    (acc.1 ++ [r], next)) ([], {})
  let answered : Option Nat :=
    match items.findIdx? (fun d => match d with | .failure .. => true | _ => false) with
    | some i =>
      if i < reader.taken + 2 then
        match items[i]? with
        | some (.failure _ _ a) => a
        | _ => none
      else none
    | none => none
  let afterClose := if writesFail then timedOut else if s.serverDrop then closedPipe else closeSent
  let got := if writesFail then [] else s.writes.map Received.message
  let ending : List Received :=
    if writesFail then [.closed 1006]
    else if s.serverDrop then []
    else [.closed (answered.getD 1000)]
  { writes, reads, afterClose, received := got ++ ending }

end WebSocket

end Mqtt
