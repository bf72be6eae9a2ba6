import Mqtt.Proofs.Runs
/-! # A client that gave up

A client gives up when its CONNACK is refused or its reconnect budget runs out: it moves to
`disconnect` and drops its connection. Only a stop or a delete brings it back to idle. Every other
step leaves it where it is and writes nothing: `start` and the operations that need the broker
check the state first and fail with `reconnectFailed`, the reader has no connection to read, the
timer finds nothing to do, and the operations that stay local touch neither the state nor the
connection.

`Sim.Stays` says that an action keeps the state, the connection and the record of writes of a
client that gave up. It has the rules of a triple (`Stays.bind`, `Stays.ite`, `Stays.pure`) and
one lemma per action. An action that would write or dial is only reached after a read of the
client, and `Stays.client_bind` lets the rest of the action assume what that read found.
`Sim.Refuses` says that an operation fails at once with `Client.refusal`, changing nothing.
-/

namespace Mqtt

/-- What a client that gave up must keep: its state, its connection and the packets written. -/
structure Quiet where
  state : ClientState
  conn : Option Nat
  sent : List Written

def World.quiet (w : World) : Quiet := ⟨w.client.state, w.client.conn, w.trace.sent⟩

/-- What a client that gave up answers an operation that needs the broker: a deleted client is
closed, any other gave up reconnecting. -/
def Client.refusal (c : Client) : Failure :=
  if c.closed then .of .clientClosed else .of .reconnectFailed

namespace Sim

/-- From a client that gave up and holds no connection, `x` keeps the state, the connection and
the record of writes. -/
def Stays {α : Type} (x : Sim α) : Prop :=
  ∀ w : World, w.client.state = .disconnect → w.client.conn = none → (x.run w).2.quiet = w.quiet

/-- From a client that gave up, `x` fails at once with the client's refusal and changes nothing. -/
def Refuses {α : Type} (x : Sim (Except Failure α)) : Prop :=
  ∀ w : World, w.client.state = .disconnect → x.run w = (.error w.client.refusal, w)

section Rules

variable {α β : Type}

theorem Stays.bind {x : Sim α} {f : α → Sim β} (hx : Stays x) (hf : ∀ a, Stays (f a)) :
    Stays (x >>= f) := by
  intro w down unlinked
  have first := hx w down unlinked
  have down' : (x.run w).2.client.state = .disconnect := (congrArg Quiet.state first).trans down
  have unlinked' : (x.run w).2.client.conn = none := (congrArg Quiet.conn first).trans unlinked
  rw [run_bind_snd, hf _ _ down' unlinked', first]

theorem Stays.pure (a : α) : Stays (Pure.pure a : Sim α) := fun _ _ _ => rfl

theorem Stays.ite {c : Prop} [Decidable c] {x y : Sim α} (hx : Stays x) (hy : Stays y) :
    Stays (if c then x else y) := by
  split
  · exact hx
  · exact hy

/-- What follows a read of the client needs to stay only for a client that gave up. -/
theorem Stays.client_bind {f : Client → Sim α}
    (hf : ∀ c, c.state = .disconnect → c.conn = none → Stays (f c)) : Stays (client >>= f) :=
  fun w down unlinked => hf w.client down unlinked w down unlinked

/-- What follows a read of the world needs to stay only from that world. -/
theorem Stays.get_bind {f : World → Sim α}
    (hf : ∀ w, w.client.state = .disconnect → w.client.conn = none → ((f w).run w).2.quiet = w.quiet) :
    Stays (get >>= f) :=
  hf

/-- An action that stays, run from one world, and what follows it. -/
theorem Stays.bind_at {x : Sim α} {f : α → Sim β} {w w' : World} {a : α} (hx : x.run w = (a, w'))
    (hf : ((f a).run w').2.quiet = w.quiet) : ((x >>= f).run w).2.quiet = w.quiet := by
  rw [run_bind_snd, hx]
  exact hf

theorem Refuses.stays {x : Sim (Except Failure α)} (hx : Refuses x) : Stays x := by
  intro w down _
  rw [hx w down]

/-- An operation that refuses, followed by a step that hands a failure on, refuses. -/
theorem Refuses.bind {x : Sim (Except Failure α)} {f : Except Failure α → Sim (Except Failure β)}
    (hx : Refuses x) (hf : ∀ e, f (.error e) = Pure.pure (.error e)) : Refuses (x >>= f) := by
  intro w down
  show (f (x.run w).1).run (x.run w).2 = _
  rw [hx w down, hf]
  rfl

end Rules

/-! ## The primitive actions -/

theorem stays_client : Stays client := fun _ _ _ => rfl

theorem stays_now : Stays now := fun _ _ _ => rfl

theorem stays_sleep (ms : Int) : Stays (sleep ms) := fun _ _ _ => rfl

theorem stays_modifyNet (f : Network → Network) : Stays (modifyNet f) := fun _ _ _ => rfl

theorem stays_metric (f : Client → MetricStore → MetricStore) : Stays (metric f) :=
  fun _ _ _ => rfl

theorem stays_noteTaken (a : Ack) : Stays (noteTaken a) := fun _ _ _ => rfl

theorem stays_log (l : LogLevel) (msg : String) (attrs : Doc.Fields) : Stays (log l msg attrs) := by
  intro w _ _
  rw [log_run]
  rfl

/-- A change of a client that keeps a client that gave up as it is. -/
theorem stays_modifyClient {f : Client → Client}
    (hf : ∀ c, c.state = .disconnect → c.conn = none → (f c).state = .disconnect ∧ (f c).conn = none) :
    Stays (modifyClient f) := by
  intro w down unlinked
  obtain ⟨down', unlinked'⟩ := hf w.client down unlinked
  simp [World.quiet, down, unlinked, down', unlinked']

theorem usable_refuses : Refuses usable := by
  intro w down
  unfold usable Client.refusal
  simp only [StateT.run_bind, client_run, pure_bind]
  split
  · rfl
  · rw [if_pos (by simp [down])]
    rfl

theorem stays_usable : Stays usable := (usable_refuses).stays

/-! ## Writing and waiting

Every write goes through the current connection, and a client that gave up has none. -/

theorem stays_send (p : Packet) : Stays (send p) :=
  Stays.client_bind fun c _ unlinked => by
    simp only [unlinked]
    exact .pure _

theorem stays_sendAndWaitFrom (expect : PacketKind) (timeout : Int) (dupOnRetry : Bool)
    (attempts : Int) (id : UInt16) (fuel attempt : Nat) (p : Packet) :
    Stays (sendAndWaitFrom expect timeout dupOnRetry attempts id fuel attempt p) := by
  induction fuel generalizing attempt p with
  | zero => exact .pure _
  | succ fuel ih =>
    unfold sendAndWaitFrom
    extract_lets attempt_once
    have attempt_stays : ∀ q, Stays (attempt_once q) := by
      intro q
      simp only [attempt_once]
      refine (stays_send q).bind fun sent => ?_
      split
      · exact .pure _
      · refine (stays_client).bind fun _ => (stays_modifyClient fun _ down unlinked => by exact ⟨down, unlinked⟩).bind fun _ => ?_
        split
        · exact (stays_noteTaken _).bind fun _ => (stays_metric _).bind fun _ => .pure _
        · exact (stays_sleep _).bind fun _ => (stays_log _ _ _).bind fun _ => ih _ _
    refine .ite ?_ ((Stays.pure _).bind attempt_stays)
    refine (stays_usable).bind fun _ => ?_
    split
    · exact .pure _
    · exact (stays_metric _).bind fun _ => (Stays.pure _).bind attempt_stays

theorem stays_sendAndWait (p : Packet) (expect : PacketKind) (timeout : Int) (dupOnRetry : Bool) :
    Stays (sendAndWait p expect timeout dupOnRetry) :=
  (stays_client).bind fun _ => stays_sendAndWaitFrom _ _ _ _ _ _ _ _

theorem stays_nextId : Stays nextId := by
  unfold nextId
  refine (stays_client).bind fun _ => ?_
  split
  exact (stays_modifyClient fun _ down unlinked => by exact ⟨down, unlinked⟩).bind fun _ => .pure _

theorem stays_subscribeRemote (e : Subscription.Entry HandlerRef) : Stays (subscribeRemote e) := by
  unfold subscribeRemote
  refine (stays_nextId).bind fun _ => (stays_client).bind fun _ =>
    (stays_sendAndWait _ _ _ _).bind fun acked => ?_
  split
  · exact .pure _
  · exact .ite (.pure _) ((stays_log _ _ _).bind fun _ => .pure _)

theorem stays_resubscribeEach (entries : List (Subscription.Entry HandlerRef))
    (first : Option Failure) : Stays (resubscribeEach entries first) := by
  induction entries generalizing first with
  | nil =>
    cases first with
    | none => exact .pure _
    | some f => exact .pure _
  | cons e rest ih =>
    refine (stays_subscribeRemote e).bind fun done => ?_
    cases done with
    | ok u => exact ih _
    | error err => exact (stays_log _ _ _).bind fun _ => ih _

theorem stays_resubscribe : Stays resubscribe :=
  (stays_client).bind fun _ => stays_resubscribeEach _ _

/-! ## The reader

A client that gave up holds no connection, so the reader can only be finishing a read on a
connection the client itself closed; that read fails at once, and the loss is not the current
connection's. -/

/-- A read on a connection the client closed fails at once and changes nothing. -/
theorem readPacket_closedByClient {conn : Nat} {w : World} (timeout : Int)
    (closed : (w.net.get? conn).any Link.closedByClient = true) :
    (readPacket conn timeout).run w = (.failed (finFailure closedConnection), w) := by
  unfold readPacket
  simp only [StateT.run_bind, client_run, pure_bind, StateT.run_get]
  cases found : w.net.get? conn with
  | none =>
    rw [found] at closed
    cases closed
  | some link =>
    rw [found, Option.any_some] at closed
    simp only [closed, if_true]
    rfl

/-- The loss of a connection that is not the current one changes nothing. -/
theorem stays_handleFin (conn : Nat) : Stays (handleFin conn) :=
  Stays.client_bind fun c _ unlinked => by
    rw [if_pos (by simp [unlinked])]
    exact .pure _

theorem stays_readerTurn : Stays readerTurn := by
  unfold readerTurn
  refine Stays.client_bind fun c _ unlinked => .ite (.pure _) ?_
  refine Stays.get_bind fun w down' unlinked' => ?_
  dsimp only
  have idle : ((modifyClient fun c => { c with readerOn := none }) >>= fun _ =>
      (Pure.pure ReaderTurn.blocked : Sim ReaderTurn)).run w |>.2.quiet = w.quiet :=
    ((stays_modifyClient fun _ down unlinked => by exact ⟨down, unlinked⟩).bind fun _ => .pure _) w down' unlinked'
  cases reading : c.readerOn with
  | none =>
    simp only [unlinked]
    exact idle
  | some x =>
    by_cases closed : (w.net.get? x).any Link.closedByClient = true
    · -- the read on the closed connection fails, and its loss is not the current connection's
      simp only [if_pos closed]
      refine Stays.bind_at (modifyClient_run _ _) ?_
      refine Stays.bind_at (readPacket_closedByClient _ closed) ?_
      refine (show Stays _ from ?_) _ down' unlinked'
      refine .ite ((stays_log _ _ _).bind fun _ => .pure _) (.ite
        ((stays_log _ _ _).bind fun _ => .pure _) ((stays_log _ _ _).bind fun _ =>
          (stays_modifyClient fun _ down unlinked => by exact ⟨down, unlinked⟩).bind fun _ => (stays_handleFin x).bind fun _ =>
            .ite ((stays_modifyClient fun _ down unlinked => by exact ⟨down, unlinked⟩).bind fun _ => .pure _) (.pure _)))
    · simp only [closed, unlinked]
      exact idle

theorem stays_pumpFor (fuel : Nat) : Stays (pumpFor fuel) := by
  induction fuel with
  | zero => exact .pure _
  | succ fuel ih =>
    refine (stays_readerTurn).bind fun turn => ?_
    cases turn with
    | blocked => exact .pure _
    | progressed => exact ih

theorem stays_pump : Stays pump := stays_pumpFor _

theorem stays_resubscribeDue : Stays resubscribeDue := by
  unfold resubscribeDue
  refine (stays_client).bind fun _ => .ite (.pure _) ?_
  refine (stays_modifyClient fun _ down unlinked => by exact ⟨down, unlinked⟩).bind fun _ => ?_
  dsimp only
  refine .ite (stays_resubscribe.bind fun resubscribed => ?_) (.pure _)
  split
  · exact (stays_log _ _ _).bind fun _ => .pure _
  · exact .pure _

theorem stays_settleFor (fuel : Nat) : Stays (settleFor fuel) := by
  induction fuel with
  | zero => exact .pure _
  | succ fuel ih => exact (stays_pump).bind fun _ => (stays_resubscribeDue).bind fun _ => .ite ih (.pure _)

theorem stays_settle : Stays settle := stays_settleFor _

/-! ## The operations -/

theorem stays_sendDisconnect : Stays sendDisconnect :=
  Stays.client_bind fun c _ unlinked => by
    simp only [unlinked]
    exact .pure _

theorem stays_dropConn (target : Option Nat) : Stays (dropConn target) := by
  refine Stays.client_bind fun c _ unlinked => ?_
  dsimp only
  refine .ite (Stays.bind (stays_modifyClient fun _ down _ => ⟨down, rfl⟩) fun _ => ?_) ?_
  -- either way the link named, or else the current one, is closed if there is one
  all_goals
    split
    · exact stays_modifyNet _
    · exact .pure _

theorem stays_disconnect : Stays disconnect := by
  refine (stays_client).bind fun _ => .ite (.pure _) ?_
  refine (stays_sendDisconnect).bind fun _ => (stays_dropConn none).bind fun _ =>
    Stays.client_bind fun c down _ => ?_
  rw [if_neg (by simp [down])]
  exact .pure _

theorem stays_stopReader : Stays stopReader :=
  stays_modifyClient fun c down unlinked => by
    split
    · exact ⟨down, unlinked⟩
    · exact ⟨down, unlinked⟩

theorem stays_setKeepAliveInterval (ms : Int) : Stays (setKeepAliveInterval ms) :=
  .ite (.pure _) (stays_now.bind fun _ => (stays_modifyClient fun _ down unlinked => by exact ⟨down, unlinked⟩).bind fun _ => .pure _)

theorem preparePublish_refuses (m : Message) : Refuses (preparePublish (some m)) :=
  Refuses.bind usable_refuses fun _ => rfl

theorem publish_refuses (m : Message) (timeout : Int) : Refuses (publish (some m) timeout) :=
  Refuses.bind (preparePublish_refuses m) fun _ => rfl

theorem publishAsync_refuses (m : Message) : Refuses (publishAsync (some m)) :=
  Refuses.bind (preparePublish_refuses m) fun _ => rfl

theorem subscribe_refuses (filter : Bytes) (qos : UInt8) (handler : Option HandlerRef) :
    Refuses (subscribe filter qos handler) :=
  Refuses.bind usable_refuses fun _ => rfl

theorem unsubscribe_refuses (filter : Bytes) : Refuses (unsubscribe filter) :=
  Refuses.bind usable_refuses fun _ => rfl

theorem start_refuses : Refuses start := by
  intro w down
  unfold start Client.refusal
  rw [StateT.run_bind, client_run, pure_bind]
  split
  · rfl
  · rw [if_pos (by simp [down])]
    rfl

theorem stays_publish (msg : Option Message) (timeout : Int) : Stays (publish msg timeout) := by
  cases msg with
  | none => exact .pure _
  | some m => exact (publish_refuses m timeout).stays

theorem stays_publishAsync (msg : Option Message) : Stays (publishAsync msg) := by
  cases msg with
  | none => exact .pure _
  | some m => exact (publishAsync_refuses m).stays

theorem stays_control (cmd : Int) (arg : ControlArg) : Stays (control cmd arg) := by
  unfold control
  refine (stays_client).bind fun _ => .ite (.pure _) ?_
  split
  · -- events on or off
    split
    · exact (stays_modifyClient fun _ down unlinked => by exact ⟨down, unlinked⟩).bind fun _ => .pure _
    · exact (stays_modifyClient fun _ down unlinked => by exact ⟨down, unlinked⟩).bind fun _ => .pure _
    · exact (stays_modifyClient fun _ down unlinked => by exact ⟨down, unlinked⟩).bind fun _ => .pure _
    · exact .pure _
  · -- a subscription added to the table only
    dsimp only
    split
    · exact .pure _
    · split
      · exact .pure _
      · refine (stays_client).bind fun _ => ?_
        split
        · exact .pure _
        · exact (stays_modifyClient fun _ down unlinked => by exact ⟨down, unlinked⟩).bind fun _ => .pure _
    · exact .pure _
  · split
    · exact (stays_setKeepAliveInterval _).bind fun _ => .pure _
    · exact .pure _
  · exact (stays_client).bind fun _ => .pure _
  · exact (stays_stopReader).bind fun _ => .pure _
  · exact (stays_disconnect).bind fun _ => .pure _
  · exact .pure _

/-! ## The timer

The keep-alive acts only on a linked client, the reconnect part finds a client that gave up and
says so, and the QoS 2 resends need a connection. -/

theorem stays_keepAliveTick (t : Int) : Stays (keepAliveTick t) :=
  Stays.client_bind fun c down _ => by
    rw [if_pos (by simp [down])]
    exact .pure _

theorem reconnectTick_gaveUp (t : Int) {w : World} (down : w.client.state = .disconnect) :
    (reconnectTick t).run w = (true, w) := by
  unfold reconnectTick
  rw [StateT.run_bind, client_run, pure_bind]
  simp only [down]
  rfl

theorem LogsOnly.stays {α : Type} {x : Sim α} (h : LogsOnly x) : Stays x := by
  intro w _ _
  obtain ⟨logs, logged⟩ := h w
  rw [logged]
  rfl

theorem stays_qos2Cycle (t : Int) : Stays (qos2Cycle t) := by
  unfold qos2Cycle
  refine (stays_client).bind fun _ => ?_
  split
  refine (stays_modifyClient fun _ down unlinked => by exact ⟨down, unlinked⟩).bind fun _ => ?_
  dsimp only
  exact .ite ((stays_metric _).bind fun _ =>
      (logsOnly_forIn _ _ fun _ => logsOnly_log _ _ _).stays.bind fun _ => .pure _)
    (.pure _)

theorem stays_qos2Tick (t : Int) : Stays (qos2Tick t) := by
  unfold qos2Tick
  refine (stays_qos2Cycle t).bind fun _ => .ite (.pure _) ?_
  refine Stays.client_bind fun c _ unlinked => ?_
  simp only [unlinked]
  exact .pure _

theorem stays_reconnectTick (t : Int) : Stays (reconnectTick t) := by
  intro w down _
  rw [reconnectTick_gaveUp t down]

theorem stays_tick (t : Int) : Stays (tick t) :=
  (stays_keepAliveTick t).bind fun _ => (stays_reconnectTick t).bind fun _ =>
    .ite (.pure _) ((stays_qos2Tick t).bind fun _ => .pure _)

/-! ## Steps of a session -/

theorem Stays.map {α β : Type} {x : Sim α} (f : α → β) (hx : Stays x) : Stays (f <$> x) :=
  fun w down unlinked => hx w down unlinked

theorem stays_get : Stays (get : Sim World) := fun _ _ _ => rfl

theorem stays_onNewestLink (f : Nat → Network → Network) : Stays (onNewestLink f) := by
  refine (stays_get).bind fun _ => ?_
  split
  · exact .pure _
  · exact (stays_modifyNet _).bind fun _ => .pure _

/-- Every step but a stop or a delete keeps a client that gave up as it is. -/
theorem stays_runStep (s : Step) (notStop : s ≠ .stop) (notDelete : s ≠ .delete) :
    Stays (runStep s) := by
  cases s with
  | start => exact (start_refuses).stays.map _
  | stop => exact absurd rfl notStop
  | delete => exact absurd rfl notDelete
  | disconnect => exact (stays_disconnect).map _
  | stopReader => exact (stays_stopReader).bind fun _ => (stays_sleep _).bind fun _ => .pure _
  | publish m t => exact (stays_publish m t).map _
  | publishAsync m => exact (stays_publishAsync m).map _
  | subscribe f q h => exact (subscribe_refuses f q _).stays.map _
  | unsubscribe f => exact (unsubscribe_refuses f).stays.map _
  | subscriptions => exact (stays_client).bind fun _ => .pure _
  | setKeepAlive ms => exact (stays_setKeepAliveInterval ms).map _
  | control cmd arg =>
    refine (stays_control cmd arg).bind fun _ => ?_
    dsimp only
    exact .ite ((stays_sleep _).bind fun _ => .pure _) (.pure _)
  | tick advance => exact (stays_now).bind fun _ => (stays_tick _).bind fun _ => .pure _
  | broker c => exact (stays_modifyNet _).bind fun _ => .pure _
  | inject b => exact stays_onNewestLink _
  | brokerClose => exact stays_onNewestLink _

/-- A step other than a stop or a delete leaves a client that gave up as it was, and writes
nothing: the step's record of writes, which it starts afresh, stays empty. -/
theorem perform_gaveUp (withLogs : Bool) (s : Step) (notStop : s ≠ .stop) (notDelete : s ≠ .delete)
    {w : World} (down : w.client.state = .disconnect) (unlinked : w.client.conn = none) :
    ((perform withLogs s).run w).2.quiet = ⟨.disconnect, none, []⟩ := by
  unfold perform
  rw [run_bind_snd, run_bind_snd]
  generalize cleared : ((modify fun w => { w with trace := {} } : Sim Unit).run _).2 = w₁
  have fresh : w₁.quiet = ⟨.disconnect, none, []⟩ := by
    rw [← cleared]
    show Quiet.mk w.client.state w.client.conn [] = _
    rw [down, unlinked]
  rw [← fresh]
  exact ((stays_runStep s notStop notDelete).bind fun _ => (stays_settle).bind fun _ =>
    (stays_get).bind fun _ => .pure _) w₁ (congrArg Quiet.state fresh) (congrArg Quiet.conn fresh)

/-- Steps none of which is a stop or a delete leave a client that gave up as it was. -/
theorem performAll_gaveUp (withLogs : Bool) (steps : List Step)
    (kept : ∀ s ∈ steps, s ≠ .stop ∧ s ≠ .delete) {w : World}
    (down : w.client.state = .disconnect) (unlinked : w.client.conn = none) :
    ((performAll withLogs steps).run w).2.client.state = .disconnect ∧
      ((performAll withLogs steps).run w).2.client.conn = none := by
  induction steps generalizing w with
  | nil => exact ⟨down, unlinked⟩
  | cons s rest ih =>
    obtain ⟨notStop, notDelete⟩ := kept s (List.mem_cons_self ..)
    have step := perform_gaveUp withLogs s notStop notDelete down unlinked
    unfold performAll
    rw [run_bind_snd, run_bind_snd]
    exact ih (fun s' later => kept s' (List.mem_cons_of_mem s later))
      (congrArg Quiet.state step) (congrArg Quiet.conn step)

end Sim

/-- A client that gave up stays so until it is stopped or deleted. In every world a session
reaches with the client given up, it holds no connection; every step but a stop or a delete
leaves it given up and unlinked, and writes nothing; any run of such steps leaves it given up; and
a client that was not deleted refuses to start, and to publish, subscribe or unsubscribe, with
`reconnectFailed`. -/
theorem gaveUp_absorbing {w : World} {ledger : List BudgetMark} (reaches : w.Reaches ledger)
    (down : w.client.state = .disconnect) :
    w.client.conn = none ∧
      (∀ (withLogs : Bool) (s : Step), s ≠ .stop → s ≠ .delete →
        ((Sim.perform withLogs s).run w).2.client.state = .disconnect ∧
        ((Sim.perform withLogs s).run w).2.client.conn = none ∧
        ((Sim.perform withLogs s).run w).2.trace.sent = []) ∧
      (∀ (withLogs : Bool) (steps : List Step), (∀ s ∈ steps, s ≠ .stop ∧ s ≠ .delete) →
        ((Sim.performAll withLogs steps).run w).2.client.state = .disconnect) ∧
      (w.client.closed = false →
        (Sim.start.run w).1 = .error (.of .reconnectFailed) ∧
        (∀ m t, ((Sim.publish (some m) t).run w).1 = .error (.of .reconnectFailed)) ∧
        (∀ m, ((Sim.publishAsync (some m)).run w).1 = .error (.of .reconnectFailed)) ∧
        (∀ f q h, ((Sim.subscribe f q h).run w).1 = .error (.of .reconnectFailed)) ∧
        (∀ f, ((Sim.unsubscribe f).run w).1 = .error (.of .reconnectFailed))) := by
  have unlinked : w.client.conn = none := reaches.steady.1.down_unlinked down
  refine ⟨unlinked, fun withLogs s notStop notDelete => ?_,
    fun withLogs steps kept => (Sim.performAll_gaveUp withLogs steps kept down unlinked).1,
    fun open_ => ?_⟩
  · have step := Sim.perform_gaveUp withLogs s notStop notDelete down unlinked
    exact ⟨congrArg Quiet.state step, congrArg Quiet.conn step, congrArg Quiet.sent step⟩
  · -- the client's refusal is `reconnectFailed` when it was not deleted
    have refusal : w.client.refusal = .of .reconnectFailed := by
      simp [Client.refusal, open_]
    refine ⟨?_, fun m t => ?_, fun m => ?_, fun f q h => ?_, fun f => ?_⟩
    · rw [Sim.start_refuses w down, refusal]
    · rw [Sim.publish_refuses m t w down, refusal]
    · rw [Sim.publishAsync_refuses m w down, refusal]
    · rw [Sim.subscribe_refuses f q h w down, refusal]
    · rw [Sim.unsubscribe_refuses f w down, refusal]

/-- A client whose CONNACK is refused at its start gives up, and stays so. -/
theorem gaveUp_absorbing_refusedConnack :
    match Client.build "tcp://broker:1883" [] [] with
    | .ok (c, _) =>
      let w : World := ((Sim.perform false .start).run
        ⟨c, { broker := { connacks := [.answer 5 false] } }, 0, {}⟩).2
      w.Reaches ([] ++ w.trace.budget) ∧ w.client.state = .disconnect ∧
      (w.client.conn = none ∧
        (∀ (withLogs : Bool) (s : Step), s ≠ .stop → s ≠ .delete →
          ((Sim.perform withLogs s).run w).2.client.state = .disconnect ∧
          ((Sim.perform withLogs s).run w).2.client.conn = none ∧
          ((Sim.perform withLogs s).run w).2.trace.sent = []) ∧
        (∀ (withLogs : Bool) (steps : List Step), (∀ s ∈ steps, s ≠ .stop ∧ s ≠ .delete) →
          ((Sim.performAll withLogs steps).run w).2.client.state = .disconnect) ∧
        (w.client.closed = false →
          (Sim.start.run w).1 = .error (.of .reconnectFailed) ∧
          (∀ m t, ((Sim.publish (some m) t).run w).1 = .error (.of .reconnectFailed)) ∧
          (∀ m, ((Sim.publishAsync (some m)).run w).1 = .error (.of .reconnectFailed)) ∧
          (∀ f q h, ((Sim.subscribe f q h).run w).1 = .error (.of .reconnectFailed)) ∧
          (∀ f, ((Sim.unsubscribe f).run w).1 = .error (.of .reconnectFailed))))
    | .error _ => False := by
  have refused : (match Client.build "tcp://broker:1883" [] [] with
      | .ok (c, _) => ((Sim.perform false .start).run
          ⟨c, { broker := { connacks := [.answer 5 false] } }, 0, {}⟩).2.client.state == .disconnect
      | .error _ => false) = true := by
    decide +kernel
  generalize built : Client.build "tcp://broker:1883" [] [] = r at refused ⊢
  cases r with
  | error e => cases refused
  | ok cd =>
    obtain ⟨c, d⟩ := cd
    have down := beq_iff_eq.mp refused
    have reaches := World.Reaches.step false .start
      (World.Reaches.built { broker := { connacks := [.answer 5 false] } } 0 {} built)
    exact ⟨reaches, down, gaveUp_absorbing reaches down⟩

end Mqtt
