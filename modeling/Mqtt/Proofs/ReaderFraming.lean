import Mqtt.Proofs.GivenUp
import Mqtt.Proofs.Links
import Mqtt.Proofs.StreamShapes
/-! # The reader keeps to the frames of its connection

The reader reads the current connection one frame at a time, whatever the broker's bytes: each
read sees what has arrived, and a frame not yet whole when the read's deadline passes, or when
the broker closes, counts as lost.

**Main results:**

- `Sim.readerTurn_reads`: one turn of a reader that reads connection `x`, by the outcome of its
  read: waiting changes nothing, a packet is handled (which only grows the network), a packet too
  large or undecodable is skipped, and any other failure closes `x` (`Sim.handleFin_net`).
- `Sim.ReadOutcome.ofRead` with `Bytes.shape`: a read waits exactly when nothing has arrived and
  the broker has not closed the connection (`StreamRead.ofRead_idle_iff`); a whole frame is read
  or skipped and never lost (`Frame.readAs_ofRead`); a cut frame or a malformed header is lost.
- `Sim.FramesTaken.pumpFor`: over any run of the reader, what it took off `x` while it kept `x`
  is a sequence of whole frames, in the order they came.
- `Sim.reader_keeps_to_frames` puts these together for a reader about to read `x`.
-/

namespace Mqtt

/-- A failure with detail text is recognised as its condition alone. -/
@[simp] theorem Failure.is_detail (c c' : Condition) (t : String) :
    (Failure.detail c t).is c' = (Failure.of c).is c' := rfl

/-- Frames one after the other, in two runs. -/
theorem Frame.stream_append (fs gs : List Frame) :
    Frame.stream (fs ++ gs) = Frame.stream fs ++ Frame.stream gs := by
  induction fs with
  | nil => rfl
  | cons f fs ih => simp [Frame.stream, ih]

/-! ## What one read reports -/

namespace Sim

/-- What a read of a link the client has not closed reports, from a read `r` of its unread bytes
through the receive buffer and whether the broker closed the link. -/
def ReadOutcome.ofRead (r : StreamRead) (brokerClosed : Bool) : ReadOutcome :=
  match r.result with
  | .ok p => .packet p
  | .error e =>
    if e.is .endOfStream || e.is .unexpectedEnd then
      if brokerClosed then .failed (finFailure e)
      else if r.used == 0 then .idle
      else .failed midPacketTimeout
    else .failed e

/-- Whether the reader gives up its connection after a read that ended so: after any failure
but a packet too large for the buffer or one whose body did not decode. -/
def ReadOutcome.givesUp : ReadOutcome → Bool
  | .failed e => !(e.is .bufferTooShort || e.is .decode)
  | _ => false

end Sim

open Sim (ReadOutcome)

/-- What one read makes of a whole frame through a buffer of `cap` bytes: the packet its body
decodes to; a decode fault when the body does not decode; too short a buffer when the frame does
not fit. -/
inductive Frame.ReadAs (cap : ReadBuffer) (f : Frame) : ReadOutcome → Prop
  | packet {p : Packet} (fits : f.total ≤ cap.size) (decodes : f.decoded.toOption = some p) :
      Frame.ReadAs cap f (.packet p)
  | undecodable {e : Failure} (fits : f.total ≤ cap.size) (fails : f.decoded.toOption = none)
      (fault : e.DecodeFault) : Frame.ReadAs cap f (.failed e)
  | oversize {t : String} (tooLarge : cap.size < f.total) :
      Frame.ReadAs cap f (.failed (.detail .bufferTooShort t))

/-- A whole frame is read as its body decodes, or skipped, whatever follows it and whether or
not the broker closed the connection. -/
theorem Frame.readAs_ofRead (cap : ReadBuffer) (f : Frame) (rest : Bytes) (brokerClosed : Bool) :
    f.ReadAs cap (ReadOutcome.ofRead (StreamRead.packetInto (f.bytes ++ rest) cap) brokerClosed) := by
  have answer := f.answer_packetInto cap rest
  by_cases fits : f.total ≤ cap.size
  · cases result : (StreamRead.packetInto (f.bytes ++ rest) cap).result with
    | ok p =>
      simp only [ReadOutcome.ofRead, result]
      exact .packet fits (by rw [← answer.decoded fits, result]; rfl)
    | error e =>
      have fault := answer.faults fits e result
      have notEnded : (e.is .endOfStream || e.is .unexpectedEnd) = false := by
        simp [fault.2.2.1, fault.2.2.2]
      simp only [ReadOutcome.ofRead, result, notEnded, Bool.false_eq_true, if_false]
      exact .undecodable fits (by rw [← answer.decoded fits, result]; rfl) fault
  · obtain ⟨t, result⟩ := answer.tooLarge fits
    have notEnded : ((Failure.detail .bufferTooShort t).is .endOfStream ||
        (Failure.detail .bufferTooShort t).is .unexpectedEnd) = false := by
      simp only [Failure.is_detail]
      decide
    simp only [ReadOutcome.ofRead, result, notEnded, Bool.false_eq_true, if_false]
    exact .oversize (by omega)

/-- The reader keeps its connection after a whole frame. -/
theorem Frame.ReadAs.keeps {cap : ReadBuffer} {f : Frame} {o : ReadOutcome} (h : f.ReadAs cap o) :
    o.givesUp = false := by
  cases h with
  | packet => rfl
  | undecodable _ _ fault => simp [ReadOutcome.givesUp, fault.1]
  | oversize =>
    simp only [ReadOutcome.givesUp, Failure.is_detail]
    decide

/-- A read of nothing waits for more, unless the broker closed the connection. -/
theorem StreamRead.ofRead_nil (cap : ReadBuffer) (brokerClosed : Bool) :
    ReadOutcome.ofRead (StreamRead.packetInto [] cap) brokerClosed =
      if brokerClosed then .failed (Sim.finFailure (.of .endOfStream)) else .idle := by
  rw [StreamRead.packetInto_nil]
  cases brokerClosed <;> rfl

/-- A read that ran out of data after taking bytes gives the connection up, whether its
deadline passed or the broker closed the connection. -/
theorem StreamRead.RanOut.givesUp {r : StreamRead} (ran : r.RanOut) (brokerClosed : Bool) :
    (ReadOutcome.ofRead r brokerClosed).givesUp = true := by
  obtain ⟨result, used, rest⟩ := r
  obtain ⟨ended, started, -⟩ := ran
  simp only at ended started
  have notIdle : (used == 0) = false := by simpa using started
  rcases ended with rfl | rfl <;> cases brokerClosed <;>
    simp only [ReadOutcome.ofRead, notIdle] <;> decide

/-- A read of a malformed fixed header gives the connection up. -/
theorem MalformedHeader.givesUp {s : Bytes} (bad : MalformedHeader s) (cap : ReadBuffer)
    (brokerClosed : Bool) :
    (ReadOutcome.ofRead (StreamRead.packetInto s cap) brokerClosed).givesUp = true := by
  obtain ⟨t, result⟩ := bad.packetInto cap
  have notEnded : ((Failure.of .readFailed).is .endOfStream ||
      (Failure.of .readFailed).is .unexpectedEnd) = false := by
    decide
  simp only [ReadOutcome.ofRead, result, Failure.is_detail, notEnded, Bool.false_eq_true,
    if_false, ReadOutcome.givesUp]
  decide

/-- A read waits exactly when there is nothing to read and the broker has not closed the
connection: a deadline that passes once a byte of a frame was taken is no wait. -/
theorem StreamRead.ofRead_idle_iff (s : Bytes) (cap : ReadBuffer) (brokerClosed : Bool) :
    ReadOutcome.ofRead (StreamRead.packetInto s cap) brokerClosed = .idle ↔
      s = [] ∧ brokerClosed = false := by
  rcases Bytes.shape s with rfl | ⟨f, rest, rfl⟩ | ⟨f, cut⟩ | bad
  · rw [StreamRead.ofRead_nil]
    cases brokerClosed <;> simp
  · refine ⟨fun idle => ?_, fun both => by simp [Frame.bytes] at both⟩
    have read := f.readAs_ofRead cap rest brokerClosed
    rw [idle] at read
    cases read
  · refine ⟨fun idle => ?_, fun both => absurd both.1 cut.1⟩
    have gives := (f.packetInto_cut cut cap).givesUp brokerClosed
    rw [idle] at gives
    cases gives
  · refine ⟨fun idle => ?_, fun both => by cases bad <;> simp at both⟩
    have gives := bad.givesUp cap brokerClosed
    rw [idle] at gives
    cases gives

namespace Sim

/-! ## One read, one turn -/

/-- A read of a link the client has not closed reports what reading its unread bytes gives,
takes the bytes that reading went through off the link, and changes nothing else of the client
but its metrics. -/
theorem readPacket_read {w : World} {x : Nat} {l : Link} (found : w.net.get? x = some l)
    (unclosed : l.closedByClient = false) (timeout : Int) :
    ((readPacket x timeout).run w).1 =
        ReadOutcome.ofRead (StreamRead.packetInto l.inbound w.client.recvCap) l.closedByBroker ∧
      ((readPacket x timeout).run w).2.net = w.net.consume x
        (l.inbound.length - (StreamRead.packetInto l.inbound w.client.recvCap).rest.length) ∧
      ((readPacket x timeout).run w).2.client =
        { w.client with metrics := ((readPacket x timeout).run w).2.client.metrics } := by
  unfold readPacket
  simp only [StateT.run_bind, client_run, pure_bind, StateT.run_get, found, unclosed,
    Bool.false_eq_true, if_false]
  generalize StreamRead.packetInto l.inbound w.client.recvCap = r
  obtain ⟨result, used, rest⟩ := r
  cases result with
  | ok p => exact ⟨rfl, rfl, rfl⟩
  | error e =>
    simp only [ReadOutcome.ofRead]
    split
    · split
      · exact ⟨rfl, rfl, rfl⟩
      · split
        · exact ⟨rfl, rfl, rfl⟩
        · exact ⟨rfl, rfl, rfl⟩
    · exact ⟨rfl, rfl, rfl⟩

/-- A read of a link with nothing to read, which neither side has closed, waits and changes
nothing. -/
theorem readPacket_waits {w : World} {x : Nat} {l : Link} (found : w.net.get? x = some l)
    (unclosed : l.closedByClient = false) (empty : l.inbound = [])
    (brokerOpen : l.closedByBroker = false) (timeout : Int) :
    (readPacket x timeout).run w = (.idle, w) := by
  unfold readPacket
  simp only [StateT.run_bind, client_run, pure_bind, StateT.run_get, found, unclosed,
    Bool.false_eq_true, if_false, empty, StreamRead.packetInto_nil]
  have ended : ((Failure.of .endOfStream).is .endOfStream ||
      (Failure.of .endOfStream).is .unexpectedEnd) = true := by
    decide
  simp only [ended, if_true, brokerOpen, Bool.false_eq_true, if_false, beq_self_eq_true,
    List.length_nil, Nat.sub_self]
  show ((.idle, { w with net := w.net.consume x 0 }) : ReadOutcome × World) = (.idle, w)
  rw [Network.consume_zero]

/-- Handling a packet changes the lifecycle only when the packet is a CONNACK: a refusal gives
the client up, an acceptance links it. -/
theorem handlePacket_transforms (conn : Nat) (p : Packet) :
    Transforms (handlePacket conn p) fun l => match p with
      | .connack a => if a.returnCode != 0 then l.refuse else l.accept
      | _ => l := by
  unfold handlePacket
  cases p
  case connack a =>
    exact Transforms.of_eq (Transforms.bind keepsLifecycle_now fun _ =>
      Transforms.bind (keepsLifecycle_modifyClient fun _ => by rfl) fun _ =>
      (handleConnack_transforms a).bind fun _ => KeepsLifecycle.pure _) fun _ => rfl
  case publish q =>
    exact (keepsLifecycle_now).bind fun _ => (keepsLifecycle_modifyClient fun _ => by rfl).bind fun _ =>
      keepsLifecycle_handlePublish _ _
  case pubrel i =>
    refine (keepsLifecycle_now).bind fun _ => (keepsLifecycle_modifyClient fun _ => by rfl).bind fun _ =>
      (keepsLifecycle_client).bind fun _ => ?_
    split
    refine (keepsLifecycle_modifyClient fun _ => by rfl).bind fun _ => ?_
    split
    · exact (keepsLifecycle_dispatch _).bind fun _ => keepsLifecycle_reply _ _
    · exact keepsLifecycle_reply _ _
  case pingresp =>
    exact (keepsLifecycle_now).bind fun _ => (keepsLifecycle_modifyClient fun _ => by rfl).bind fun _ => .pure _
  all_goals first
    | exact (keepsLifecycle_now).bind fun _ => (keepsLifecycle_modifyClient fun _ => by rfl).bind fun _ =>
        keepsLifecycle_pushAck _
    | exact (keepsLifecycle_now).bind fun _ => (keepsLifecycle_modifyClient fun _ => by rfl).bind fun _ =>
        keepsLifecycle_log _ _ _

/-- A packet handled leaves the client's connection, and whether it runs, as they were, unless the
client gave up. -/
theorem handlePacket_keepsConn (conn : Nat) (p : Packet) (w : World)
    (notDown : ((handlePacket conn p).run w).2.client.state ≠ .disconnect) :
    ((handlePacket conn p).run w).2.client.conn = w.client.conn ∧
      ((handlePacket conn p).run w).2.client.running = w.client.running := by
  have kept := handlePacket_transforms conn p w
  have conn' := congrArg Lifecycle.conn kept
  have running' := congrArg Lifecycle.running kept
  have state' := congrArg Lifecycle.state kept
  cases p
  case connack a =>
    by_cases refused : (a.returnCode != 0) = true
    · simp only [refused, if_true, Lifecycle.refuse] at state'
      exact absurd state' notDown
    · simp only [refused, Bool.false_eq_true, if_false, Lifecycle.accept] at conn' running'
      exact ⟨conn', running'⟩
  all_goals exact ⟨conn', running'⟩

/-- The reader, in world `w`, runs and reads the current connection `x`, which the client has not
closed and which holds the unread bytes of `l`. -/
structure ReadsOn (w : World) (x : Nat) (l : Link) : Prop where
  running : w.client.running = true
  alive : w.client.readerAlive = true
  current : w.client.conn = some x
  found : w.net.get? x = some l
  unclosed : l.closedByClient = false

/-- The reader is not in the middle of a read on a connection the client closed under it. -/
def Settled (w : World) : Prop :=
  ∀ y, w.client.readerOn = some y → (w.net.get? y).any Link.closedByClient = false

/-- The reader still reads `x`, which holds the unread bytes of `l`, or it has stopped. -/
def Continues (w : World) (x : Nat) (l : Link) : Prop :=
  ReadsOn w x l ∨ w.client.running = false ∨ w.client.readerAlive = false

/-- A settled reader turns to the current connection. -/
theorem readerTurn_target_settled {w : World} {x : Nat} {l : Link} (on : ReadsOn w x l)
    (settled : Settled w) :
    (match w.client.readerOn with
      | some y => if (w.net.get? y).any Link.closedByClient then some y else w.client.conn
      | none => w.client.conn) = some x := by
  cases waiting : w.client.readerOn with
  | none => exact on.current
  | some y =>
    simp only [settled y waiting, Bool.false_eq_true, if_false]
    exact on.current

/-- A reader whose connection was closed under its read turns back to that connection. -/
theorem readerTurn_target_closed {w : World} {y : Nat} (waiting : w.client.readerOn = some y)
    (closedUnder : (w.net.get? y).any Link.closedByClient = true) :
    (match w.client.readerOn with
      | some y => if (w.net.get? y).any Link.closedByClient then some y else w.client.conn
      | none => w.client.conn) = some y := by
  simp only [waiting, closedUnder, if_true]

/-- One turn of a reader that reads `x`, by the outcome of its read: a wait changes nothing but
where the reader waits; a packet is handled, which only grows the network, and the reader goes on
on `x` unless the client gave up; a packet too large or undecodable is skipped, changing nothing
but the log; any other failure gives `x` up, closing it. -/
theorem readerTurn_reads {w : World} {x : Nat} {l : Link} (on : ReadsOn w x l)
    (settled : Settled w) :
    let read := (readPacket x w.client.options.recvTimeout).run
      { w with client := { w.client with readerOn := some x } }
    (read.1 = .idle → readerTurn.run w = (.blocked, read.2)) ∧
    (∀ p, read.1 = .packet p → Network.Grows read.2.net (readerTurn.run w).2.net ∧
      ((readerTurn.run w).2.client.readerAlive = false ∨
        (readerTurn.run w).2.client.conn = some x ∧ (readerTurn.run w).2.client.running = true)) ∧
    (∀ e, read.1 = .failed e → read.1.givesUp = false →
      (readerTurn.run w).2.net = read.2.net ∧ (readerTurn.run w).2.client = read.2.client) ∧
    (read.1.givesUp = true → ((readerTurn.run w).2.net.get? x).any Link.closedByClient = true) := by
  intro read
  -- the read changes only the client's metrics and the link it reads
  obtain ⟨-, consumed, frame⟩ := readPacket_read
    (w := { w with client := { w.client with readerOn := some x } })
    on.found on.unclosed w.client.options.recvTimeout
  have current : read.2.client.conn = some x := by rw [frame]; exact on.current
  have running : read.2.client.running = true := by rw [frame]; exact on.running
  have present : (read.2.net.get? x).isSome := by
    rw [consumed, Network.get?_consume, on.found]
    rfl
  unfold readerTurn
  rw [client_bind_run]
  simp only [on.running, on.alive, Bool.not_true, Bool.or_self, Bool.false_eq_true, if_false,
    StateT.run_bind, StateT.run_get, pure_bind]
  -- a settled reader reads the current connection
  have target := readerTurn_target_settled on settled
  split
  · rename_i heq
    exact absurd (heq.symm.trans target) (by simp)
  rename_i y heq
  obtain rfl : y = x := Option.some.inj (heq.symm.trans target)
  have stepped : ∀ {β : Type} (K : ReadOutcome → Sim β),
      (modifyClient (fun c => { c with readerOn := some y }) >>= fun _ =>
        readPacket y w.client.options.recvTimeout >>= K).run w = (K read.1).run read.2 :=
    fun _ => rfl
  rw [stepped]
  refine ⟨fun idle => ?_, fun p handled => ?_, fun e failed keeps => ?_, fun gives => ?_⟩
  · rw [idle]
    rfl
  · -- a packet is handled; the reader stops if the client gave up
    rw [handled]
    refine ⟨(moves_handlePacket y p).bind (fun _ => (moves_client).bind fun _ =>
      .ite ((moves_modifyClient _).bind fun _ => .pure _) (.pure _)) read.2, ?_⟩
    rw [run_bind_snd, client_bind_run]
    split
    · exact .inl rfl
    · rename_i notDown
      have kept := handlePacket_keepsConn y p read.2 (by simpa using notDown)
      exact .inr ⟨kept.1.trans current, kept.2.trans running⟩
  · -- a packet too large or undecodable is logged and skipped
    rw [failed] at keeps ⊢
    have skipped : (e.is .bufferTooShort || e.is .decode) = true := by
      simpa only [ReadOutcome.givesUp, Bool.not_eq_eq_eq_not, Bool.not_false] using keeps
    dsimp only
    split
    · rw [run_bind_snd, log_run]
      exact ⟨rfl, rfl⟩
    · rename_i notLarge
      rw [if_pos (by simpa [notLarge] using skipped), run_bind_snd, log_run]
      exact ⟨rfl, rfl⟩
  · -- any other failure loses the connection, which `handleFin` closes
    cases outcome : read.1 with
    | idle => simp [outcome, ReadOutcome.givesUp] at gives
    | packet p => simp [outcome, ReadOutcome.givesUp] at gives
    | failed e =>
      rw [outcome] at gives
      simp only [ReadOutcome.givesUp, Bool.not_eq_eq_eq_not, Bool.not_true,
        Bool.or_eq_false_iff] at gives
      obtain ⟨notLarge, notBad⟩ := gives
      dsimp only
      simp only [notLarge, notBad, Bool.false_eq_true, if_false]
      rw [run_bind_snd, log_run, run_bind_snd, run_bind_snd]
      exact (Moves.ite ((moves_modifyClient _).bind fun _ => .pure _) (.pure _) :
        Moves .keepsClosed _) _ y ((handleFin_net y _).2 current present)

/-! ## A turn on each shape of the connection's bytes -/

section Turns

variable {w : World} {x : Nat} {l : Link}

/-- With nothing to read and the broker still there, a turn waits and changes nothing but where
the reader waits. -/
theorem readerTurn_waits (on : ReadsOn w x l) (settled : Settled w) (empty : l.inbound = [])
    (brokerOpen : l.closedByBroker = false) :
    readerTurn.run w = (.blocked, { w with client := { w.client with readerOn := some x } }) := by
  have waited := readPacket_waits (w := { w with client := { w.client with readerOn := some x } })
    on.found on.unclosed empty brokerOpen w.client.options.recvTimeout
  rw [(readerTurn_reads on settled).1 (by rw [waited]), waited]

/-- A read whose outcome gives the connection up makes the turn close it. -/
theorem readerTurn_givesUp (on : ReadsOn w x l) (settled : Settled w)
    (gives : (ReadOutcome.ofRead (StreamRead.packetInto l.inbound w.client.recvCap)
      l.closedByBroker).givesUp = true) :
    ((readerTurn.run w).2.net.get? x).any Link.closedByClient = true := by
  obtain ⟨outcome, -, -⟩ := readPacket_read (w := { w with client := { w.client with readerOn := some x } })
    on.found on.unclosed w.client.options.recvTimeout
  exact (readerTurn_reads on settled).2.2.2 (by rw [outcome]; exact gives)

/-- A whole frame in front of the connection is read as its body decodes, or skipped; the read
stops at its end, so what followed it stays in front of the connection, and the reader goes on
with it, unless handling the packet closed it or stopped the reader. A skipped frame leaves
exactly what followed it, and the reader on the connection. -/
theorem readerTurn_frame (on : ReadsOn w x l) (settled : Settled w) {f : Frame} {rest : Bytes}
    (front : l.inbound = f.bytes ++ rest) :
    f.ReadAs w.client.recvCap ((readPacket x w.client.options.recvTimeout).run w).1 ∧
    ∃ l', (readerTurn.run w).2.net.get? x = some l' ∧ rest <+: l'.inbound ∧
      (l'.closedByClient = true ∨ Continues (readerTurn.run w).2 x l') ∧
      ∀ e, ((readPacket x w.client.options.recvTimeout).run w).1 = .failed e →
        l'.inbound = rest ∧ ReadsOn (readerTurn.run w).2 x l' := by
  obtain ⟨-, handles, skips, -⟩ := readerTurn_reads on settled
  obtain ⟨outcome, consumed, frame⟩ := readPacket_read
    (w := { w with client := { w.client with readerOn := some x } })
    on.found on.unclosed w.client.options.recvTimeout
  have same : ((readPacket x w.client.options.recvTimeout).run w).1 =
      ((readPacket x w.client.options.recvTimeout).run
        { w with client := { w.client with readerOn := some x } }).1 := by
    rw [(readPacket_read on.found on.unclosed _).1, outcome]
  have read : f.ReadAs w.client.recvCap ((readPacket x w.client.options.recvTimeout).run
      { w with client := { w.client with readerOn := some x } }).1 := by
    rw [outcome, front]
    exact f.readAs_ofRead _ rest _
  -- the read takes exactly the frame off the connection
  have left : ((readPacket x w.client.options.recvTimeout).run
      { w with client := { w.client with readerOn := some x } }).2.net.get? x =
        some { l with inbound := rest } := by
    rw [consumed, Network.get?_consume, on.found, front, (f.answer_packetInto _ rest).rest]
    simp [front]
  rw [same]
  refine ⟨read, ?_⟩
  generalize ((readPacket x w.client.options.recvTimeout).run
    { w with client := { w.client with readerOn := some x } }) = r at read handles skips left frame ⊢
  obtain ⟨o, w₁⟩ := r
  -- a skipped frame: the turn only logs
  have skip : ∀ e, o = .failed e → o.givesUp = false → ∃ l', (readerTurn.run w).2.net.get? x = some l' ∧
      rest <+: l'.inbound ∧ (l'.closedByClient = true ∨ Continues (readerTurn.run w).2 x l') ∧
      ∀ e, o = .failed e → l'.inbound = rest ∧ ReadsOn (readerTurn.run w).2 x l' := by
    intro e failed keeps
    obtain ⟨sameNet, sameClient⟩ := skips e failed keeps
    have reads : ReadsOn (readerTurn.run w).2 x { l with inbound := rest } :=
      ⟨by rw [sameClient, frame]; exact on.running, by rw [sameClient, frame]; exact on.alive,
        by rw [sameClient, frame]; exact on.current, by rw [sameNet]; exact left, on.unclosed⟩
    exact ⟨_, by rw [sameNet]; exact left, List.prefix_refl _, .inr (.inl reads),
      fun _ _ => ⟨rfl, reads⟩⟩
  cases read with
  | packet fits decodes =>
    -- a packet: handling it only grows the network
    obtain ⟨grown, goesOn⟩ := handles _ rfl
    obtain ⟨l', found', kept, stays⟩ := grown x _ left
    refine ⟨l', found', kept, ?_, fun _ failed => nomatch failed⟩
    cases closed : l'.closedByClient
    · rcases goesOn with dead | ⟨current, running⟩
      · exact .inr (.inr (.inr dead))
      · cases alive : (readerTurn.run w).2.client.readerAlive
        · exact .inr (.inr (.inr alive))
        · exact .inr (.inl ⟨running, alive, current, found', closed⟩)
    · exact .inl rfl
  | undecodable fits fails fault => exact skip _ rfl (Frame.ReadAs.undecodable fits fails fault).keeps
  | oversize tooLarge => exact skip _ rfl (Frame.ReadAs.oversize tooLarge).keeps

/-- The loss of a connection other than the current one changes nothing. -/
theorem handleFin_other {y : Nat} (other : w.client.conn ≠ some y) :
    (handleFin y).run w = (false, w) := by
  unfold handleFin
  rw [client_bind_run, if_pos (by simpa using other)]
  rfl

/-- A turn that finds the reader still in a read on a connection closed under it ends that read
and changes nothing else: the reader then waits on no connection. -/
theorem readerTurn_finishes (on : ReadsOn w x l) {y : Nat} (waiting : w.client.readerOn = some y)
    (closedUnder : (w.net.get? y).any Link.closedByClient = true) :
    (readerTurn.run w).2.net = w.net ∧
      (readerTurn.run w).2.client = { w.client with readerOn := none } := by
  have other : w.client.conn ≠ some y := by
    rw [on.current]
    rintro ⟨⟩
    rw [on.found, Option.any_some, on.unclosed] at closedUnder
    cases closedUnder
  unfold readerTurn
  rw [client_bind_run]
  simp only [on.running, on.alive, Bool.not_true, Bool.or_self, Bool.false_eq_true, if_false,
    StateT.run_bind, StateT.run_get, pure_bind]
  -- the reader goes back to the connection it was reading, which is closed
  have target := readerTurn_target_closed waiting closedUnder
  split
  · rename_i heq
    exact absurd (heq.symm.trans target) (by simp)
  rename_i y' heq
  obtain rfl : y' = y := Option.some.inj (heq.symm.trans target)
  have stepped : ∀ {β : Type} (K : ReadOutcome → Sim β),
      (modifyClient (fun c => { c with readerOn := some y' }) >>= fun _ =>
        readPacket y' w.client.options.recvTimeout >>= K).run w =
      (K (.failed (finFailure closedConnection))).run
        { w with client := { w.client with readerOn := some y' } } := by
    intro β K
    show (readPacket y' w.client.options.recvTimeout >>= K).run
      { w with client := { w.client with readerOn := some y' } } = _
    rw [StateT.run_bind, readPacket_closedByClient _ ?closed]
    case closed => exact closedUnder
    rfl
  rw [stepped]
  have notLarge : (finFailure closedConnection).is .bufferTooShort = false := by decide
  have notBad : (finFailure closedConnection).is .decode = false := by decide
  simp only [notLarge, notBad, Bool.false_eq_true, if_false, StateT.run_bind, log_run, pure_bind,
    modifyClient_run]
  -- the connection lost is not the current one, so nothing reacts to its loss
  rw [handleFin_other ?other, on.running, on.alive]
  case other => exact other
  exact ⟨rfl, rfl⟩

/-- A reader that stopped does nothing. -/
theorem readerTurn_halted (halted : w.client.running = false ∨ w.client.readerAlive = false) :
    readerTurn.run w = (.blocked, w) := by
  unfold readerTurn
  rw [client_bind_run, if_pos (by rcases halted with h | h <;> simp [h])]
  rfl

end Turns

/-! ## The frames a run takes -/

/-- What the reader has taken off connection `x`, which first held `U`: whole frames `fs`, which
begin `U` followed by what the broker sent since (`more`). Either the reader gave `x` up, closing
it, or what is still unread on `x` is the rest of that stream and the reader still reads `x` or has
stopped. -/
def FramesTaken (x : Nat) (U : Bytes) (w : World) : Prop :=
  ∃ (fs : List Frame) (more : Bytes), Frame.stream fs <+: U ++ more ∧
    ((w.net.get? x).any Link.closedByClient = true ∨
      ∃ l, w.net.get? x = some l ∧ Frame.stream fs ++ l.inbound = U ++ more ∧ Continues w x l)

section Run

variable {w : World} {x : Nat} {U : Bytes}

/-- Before its first turn the reader has taken nothing. -/
theorem FramesTaken.start {l : Link} (on : ReadsOn w x l) : FramesTaken x l.inbound w :=
  ⟨[], [], List.nil_prefix, .inr ⟨l, on.found, by simp [Frame.stream], .inl on⟩⟩

/-- A turn of a reader that reads `x` and is settled keeps what it took whole frames, or gives
`x` up. -/
theorem FramesTaken.turn_settled {l : Link} {fs : List Frame} {more : Bytes} (on : ReadsOn w x l)
    (settled : Settled w) (taken : Frame.stream fs ++ l.inbound = U ++ more) :
    FramesTaken x U (readerTurn.run w).2 := by
  have before : Frame.stream fs <+: U ++ more := ⟨l.inbound, taken⟩
  rcases Bytes.shape l.inbound with empty | ⟨f, rest, front⟩ | ⟨f, cut⟩ | bad
  · cases brokerClosed : l.closedByBroker
    · -- nothing has arrived: the reader waits on `x`
      rw [readerTurn_waits on settled empty brokerClosed]
      exact ⟨fs, more, before, .inr ⟨l, on.found, taken, .inl { on with }⟩⟩
    · -- the broker closed `x` at a frame boundary
      refine ⟨fs, more, before, .inl (readerTurn_givesUp on settled ?_)⟩
      rw [empty, StreamRead.ofRead_nil, brokerClosed]
      decide
  · -- a whole frame: it joins those taken, and what the broker sends meanwhile joins the stream
    obtain ⟨-, l', found', ⟨extra, grown⟩, closedOr, -⟩ := readerTurn_frame on settled front
    have stream' : Frame.stream (fs ++ [f]) ++ l'.inbound = U ++ (more ++ extra) :=
      calc Frame.stream (fs ++ [f]) ++ l'.inbound
          = (Frame.stream fs ++ (f.bytes ++ rest)) ++ extra := by
            simp [← grown, Frame.stream_append, Frame.stream]
        _ = U ++ (more ++ extra) := by rw [← front, taken, List.append_assoc]
    refine ⟨fs ++ [f], more ++ extra, ⟨l'.inbound, stream'⟩, ?_⟩
    rcases closedOr with closed | goesOn
    · exact .inl (by simp [found', closed])
    · exact .inr ⟨l', found', stream', goesOn⟩
  · -- a frame cut short: the reader gives `x` up
    exact ⟨fs, more, before, .inl (readerTurn_givesUp on settled ((f.packetInto_cut cut _).givesUp _))⟩
  · -- a malformed header: the reader gives `x` up
    exact ⟨fs, more, before, .inl (readerTurn_givesUp on settled (bad.givesUp _ _))⟩

/-- Every turn keeps what the reader took whole frames, or gives the connection up. -/
theorem FramesTaken.turn (taken : FramesTaken x U w) : FramesTaken x U (readerTurn.run w).2 := by
  obtain ⟨fs, more, before, closed | ⟨l, found, taken, goesOn⟩⟩ := taken
  · -- a connection given up stays closed
    exact ⟨fs, more, before, .inl (moves_readerTurn w x closed)⟩
  rcases goesOn with on | halted
  · by_cases settled : Settled w
    · exact FramesTaken.turn_settled on settled taken
    -- the reader first ends a read on a connection closed under it, and reads nothing
    obtain ⟨y, waiting, closedUnder⟩ : ∃ y, w.client.readerOn = some y ∧
        (w.net.get? y).any Link.closedByClient = true := by
      simpa [Settled] using settled
    obtain ⟨sameNet, sameClient⟩ := readerTurn_finishes on waiting closedUnder
    have on' : ReadsOn (readerTurn.run w).2 x l :=
      ⟨by rw [sameClient]; exact on.running, by rw [sameClient]; exact on.alive,
        by rw [sameClient]; exact on.current, by rw [sameNet]; exact found, on.unclosed⟩
    exact ⟨fs, more, before, .inr ⟨l, on'.found, taken, .inl on'⟩⟩
  · rw [readerTurn_halted halted]
    exact ⟨fs, more, before, .inr ⟨l, found, taken, .inr halted⟩⟩

/-- Over any run of the reader, what it took off `x` is whole frames, in the order they came. -/
theorem FramesTaken.pumpFor (fuel : Nat) :
    ∀ {w : World}, FramesTaken x U w → FramesTaken x U ((Sim.pumpFor fuel).run w).2 := by
  induction fuel with
  | zero => exact fun taken => taken
  | succ fuel ih =>
    intro w taken
    rw [Sim.pumpFor, run_bind_snd]
    -- the run stops when the reader waits, and goes on after any other turn
    cases (readerTurn.run w).1 with
    | blocked => exact taken.turn
    | progressed => exact ih taken.turn

end Run

/-! ## The reader keeps to the frames -/

/-- What the reader does with connection `x`, holding the unread bytes of `l`, from world `w`:
its read waits exactly when nothing has arrived and the broker is still there, and then the turn
changes nothing but where the reader waits; a whole frame in front is read or skipped and the rest
kept; a cut frame, a malformed header or the broker's close gives `x` up; and over any run, what
the reader took off `x` is whole frames. -/
structure KeepsToFrames (w : World) (x : Nat) (l : Link) : Prop where
  idle : ((readPacket x w.client.options.recvTimeout).run w).1 = .idle ↔
    l.inbound = [] ∧ l.closedByBroker = false
  waits : l.inbound = [] → l.closedByBroker = false →
    readerTurn.run w = (.blocked, { w with client := { w.client with readerOn := some x } })
  whole : ∀ (f : Frame) (rest : Bytes), l.inbound = f.bytes ++ rest →
    f.ReadAs w.client.recvCap ((readPacket x w.client.options.recvTimeout).run w).1 ∧
    ∃ l', (readerTurn.run w).2.net.get? x = some l' ∧ rest <+: l'.inbound ∧
      (l'.closedByClient = true ∨ Continues (readerTurn.run w).2 x l') ∧
      ∀ e, ((readPacket x w.client.options.recvTimeout).run w).1 = .failed e →
        l'.inbound = rest ∧ ReadsOn (readerTurn.run w).2 x l'
  cut : ∀ f : Frame, f.Cut l.inbound →
    ((readerTurn.run w).2.net.get? x).any Link.closedByClient = true
  malformed : MalformedHeader l.inbound →
    ((readerTurn.run w).2.net.get? x).any Link.closedByClient = true
  brokerClosed : l.inbound = [] → l.closedByBroker = true →
    ((readerTurn.run w).2.net.get? x).any Link.closedByClient = true
  run : ∀ fuel, FramesTaken x l.inbound ((Sim.pumpFor fuel).run w).2

/-- A reader about to read the current connection `x` keeps to its frames: it waits only between
frames, reads or skips each whole frame, gives `x` up on a cut frame, a malformed header or the
broker's close, and over any run takes whole frames off `x`, in order, for as long as it keeps it. -/
theorem reader_keeps_to_frames {w : World} {x : Nat} {l : Link} (on : ReadsOn w x l)
    (settled : Settled w) : KeepsToFrames w x l where
  idle := by
    rw [(readPacket_read on.found on.unclosed _).1]
    exact StreamRead.ofRead_idle_iff _ _ _
  waits := readerTurn_waits on settled
  whole _ _ front := readerTurn_frame on settled front
  cut f cut := readerTurn_givesUp on settled ((f.packetInto_cut cut _).givesUp _)
  malformed bad := readerTurn_givesUp on settled (bad.givesUp _ _)
  brokerClosed empty closedBy := readerTurn_givesUp on settled (by
    rw [empty, StreamRead.ofRead_nil, closedBy]
    decide)
  run fuel := FramesTaken.pumpFor fuel (FramesTaken.start on)

/-- A reader on a connection holding a PINGRESP and the first byte of another. -/
theorem reader_keeps_to_frames_pingresp :
    let l : Link := { id := 1, inbound := [0xD0, 0x00, 0xD0] }
    let w : World :=
      { client := { (default : Client) with running := true, readerAlive := true, conn := some 1 },
        net := { links := [l] } }
    ReadsOn w 1 l ∧ Settled w ∧ KeepsToFrames w 1 l :=
  have on : ReadsOn _ 1 _ := ⟨rfl, rfl, rfl, rfl, rfl⟩
  have settled : Settled _ := by
    intro y waiting
    cases waiting
  ⟨on, settled, reader_keeps_to_frames on settled⟩

end Sim

end Mqtt
