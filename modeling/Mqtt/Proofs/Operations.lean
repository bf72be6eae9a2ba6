import Mqtt.Proofs.Reconnect
import Mqtt.Script.Session
/-! # Every step keeps the lifecycle steady

Every operation a program calls, every timer cycle and every step of a scripted session keeps the
lifecycle of a client steady (`Lifecycle.Steady`) and replays the ledger of the reconnect budget.
A start connects while the client is not yet running and keeps only `Lifecycle.Kept` until it
either runs or gives the connection up; the actions that read the network run only while the
client runs, where kept and steady agree.
-/

namespace Mqtt

namespace Lifecycle

variable {l l' : Lifecycle} {I J : Lifecycle → Prop}

/-- Advancing keeping one invariant advances keeping another that it gives and that returns. -/
theorem Advances.mono (h : Advances J l l') (given : I l → J l) (back : I l → J l' → I l') :
    Advances I l l' := by
  intro hi
  obtain ⟨hj, max, marks, ledger, replays⟩ := h (given hi)
  exact ⟨back hi hj, max, marks, ledger, replays⟩

/-- While the client runs, kept is steady. -/
theorem Advances.steady (h : Advances (KeptAt true) l l') (running : l.running = true) :
    Advances Steady l l' :=
  h.mono (fun steady => ⟨steady.toKept, running⟩)
    fun _ kept => ⟨kept.toKept, fun stopped => absurd (kept.runs.symm.trans stopped) (by simp)⟩

theorem advances_steady_unlink (l : Lifecycle) (conn : Option Nat)
    (forgets : conn = none ∨ conn = l.conn) : Advances Steady l { l with conn := conn } := by
  refine advances_of_budget (fun h => ⟨⟨h.counted, h.within, fun down => ?_⟩, fun stopped => ?_⟩)
    rfl rfl rfl
  · rcases forgets with forgotten | kept
    · exact forgotten
    · exact kept.trans (h.down_unlinked down)
  · obtain ⟨idle, unlinked⟩ := h.stopped stopped
    refine ⟨idle, ?_⟩
    rcases forgets with forgotten | kept
    · exact forgotten
    · exact kept.trans unlinked

/-- Going idle keeps the lifecycle steady: a client that is not running holds no connection. -/
theorem advances_steady_idle (l : Lifecycle) : Advances Steady l { l with state := .idle } :=
  advances_of_budget (fun h => ⟨⟨h.counted, h.within, fun down => by cases down⟩,
    fun stopped => ⟨.inl rfl, (h.stopped stopped).2⟩⟩) rfl rfl rfl

/-- A stopped client: idle, not running, without a connection. -/
def halt (l : Lifecycle) : Lifecycle := { l with state := .idle, conn := none, running := false }

theorem advances_halt (l : Lifecycle) : Advances Steady l l.halt :=
  advances_of_budget (fun h => ⟨⟨h.counted, h.within, fun down => by cases down⟩,
    fun _ => ⟨.inl rfl, rfl⟩⟩) rfl rfl rfl

/-- A start gives the whole budget back. -/
theorem advances_restore (b : Bool) (l : Lifecycle) :
    Advances (KeptAt b) l { l with reconnects := 0, budget := l.budget ++ [.restored] } := by
  intro h
  have nonneg : (0 : Int) ≤ l.reconnectMax := h.counted.trans h.within
  exact ⟨⟨⟨le_rfl, nonneg, h.down_unlinked⟩, h.runs⟩, rfl, [.restored], rfl, rfl⟩

/-- A start that connected runs the client. -/
theorem Advances.run (h : Advances (KeptAt false) l l') (stopped : l.running = false) :
    Advances Steady l { l' with running := true } := by
  intro steady
  obtain ⟨kept, max, marks, ledger, replays⟩ := h ⟨steady.toKept, stopped⟩
  exact ⟨⟨⟨kept.counted, kept.within, kept.down_unlinked⟩, fun running => by cases running⟩, max, marks,
    ledger, replays⟩

/-- A start that did not connect leaves the client idle or given up, without a connection. -/
theorem Advances.rest (h : Advances (KeptAt false) l l') (stopped : l.running = false)
    (down : l'.state = .idle ∨ l'.state = .disconnect) (unlinked : l'.conn = none) :
    Advances Steady l l' :=
  h.mono (fun steady => ⟨steady.toKept, stopped⟩) fun _ kept => ⟨kept.toKept, fun _ => ⟨down, unlinked⟩⟩

end Lifecycle

namespace Sim

section Steady

variable {α β : Type} {x : Sim α}

/-- An action that keeps the lifecycle kept while the client runs, and leaves it alone on a
stopped client, keeps it steady. -/
theorem Advancing.steady (running : Advancing (Lifecycle.KeptAt true) x)
    (stopped : ∀ w, w.lifecycle.Steady → w.client.running = false →
      (x.run w).2.lifecycle = w.lifecycle) :
    Advancing Lifecycle.Steady x := by
  intro w steady
  cases runs : w.client.running with
  | false =>
    rw [stopped w steady runs]
    exact Lifecycle.Advances.refl _ _ steady
  | true => exact (running w).steady runs steady

/-! What holds of the lifecycle after `x >>= f`, from what holds after `f` for every world `x`
can leave. -/

variable {R : Lifecycle → Prop} {f : α → Sim β} {w : World}

theorem KeepsLifecycle.then (hx : KeepsLifecycle x)
    (rest : ∀ a w₁, w₁.lifecycle = w.lifecycle → R ((f a).run w₁).2.lifecycle) :
    R ((x >>= f).run w).2.lifecycle :=
  rest _ _ (hx w)

theorem Transforms.then {F : Lifecycle → Lifecycle} (hx : Transforms x F)
    (rest : ∀ a w₁, w₁.lifecycle = F w.lifecycle → R ((f a).run w₁).2.lifecycle) :
    R ((x >>= f).run w).2.lifecycle :=
  rest _ _ (hx w)

theorem AdvancingFrom.then {P I : Lifecycle → Prop} (hx : AdvancingFrom P I x) (hp : P w.lifecycle)
    (rest : ∀ a w₁, Lifecycle.Advances I w.lifecycle w₁.lifecycle → R ((f a).run w₁).2.lifecycle) :
    R ((x >>= f).run w).2.lifecycle :=
  rest _ _ (hx w hp)

theorem Advancing.then {I : Lifecycle → Prop} (hx : Advancing I x)
    (rest : ∀ a w₁, Lifecycle.Advances I w.lifecycle w₁.lifecycle → R ((f a).run w₁).2.lifecycle) :
    R ((x >>= f).run w).2.lifecycle :=
  rest _ _ (hx w)

theorem readerTurn_stopped (w : World) (stopped : w.client.running = false) :
    readerTurn.run w = (.blocked, w) := by
  unfold readerTurn
  rw [client_bind_run]
  simp [stopped]
  rfl

theorem pumpFor_stopped (fuel : Nat) (w : World) (stopped : w.client.running = false) :
    (pumpFor fuel).run w = ((), w) := by
  cases fuel with
  | zero => rfl
  | succ fuel =>
    unfold pumpFor
    rw [StateT.run_bind, readerTurn_stopped w stopped]
    rfl

theorem pump_steady : Advancing Lifecycle.Steady pump :=
  (pump_advances true).steady fun w _ stopped => by rw [pump, pumpFor_stopped _ w stopped]

theorem dropConn_steady (target : Option Nat) : Advancing Lifecycle.Steady (dropConn target) := by
  refine (dropConn_transforms target).advancing fun l => Lifecycle.advances_steady_unlink l _ ?_
  split
  · exact .inl rfl
  · exact .inr rfl

theorem setState_idle_steady : Advancing Lifecycle.Steady (setState .idle) :=
  (setState_transforms _).advancing Lifecycle.advances_steady_idle

end Steady

/-! ## Writing and waiting -/

theorem writeAndPump_steady (conn : Nat) (p : Packet) :
    Advancing Lifecycle.Steady (writeAndPump conn p) :=
  (keepsLifecycle_writePacket _ _).advancing.bind fun _ => (pump_steady).bind fun _ => .pure _

theorem send_steady (p : Packet) : Advancing Lifecycle.Steady (send p) := by
  refine (keepsLifecycle_client).advancing.bind fun _ => ?_
  split
  · exact .pure _
  · exact writeAndPump_steady _ _

theorem sendAndWaitFrom_steady (expect : PacketKind) (timeout : Int) (dupOnRetry : Bool)
    (attempts : Int) (id : UInt16) (fuel attempt : Nat) (p : Packet) :
    Advancing Lifecycle.Steady (sendAndWaitFrom expect timeout dupOnRetry attempts id fuel attempt p) := by
  induction fuel generalizing attempt p with
  | zero => exact .pure _
  | succ fuel ih =>
    unfold sendAndWaitFrom
    -- each attempt sends, then takes the acknowledgment or waits and tries again
    extract_lets attempt_once
    have attempt_steady : ∀ q, Advancing Lifecycle.Steady (attempt_once q) := by
      intro q
      simp only [attempt_once]
      refine (send_steady q).bind fun sent => ?_
      split
      · exact .pure _
      · refine (keepsLifecycle_client).advancing.bind fun _ => (keepsLifecycle_modifyClient fun _ => by rfl).advancing.bind
          fun _ => ?_
        split
        · exact (keepsLifecycle_record fun _ => by rfl).advancing.bind fun _ =>
            (keepsLifecycle_metric _).advancing.bind fun _ => .pure _
        · exact (keepsLifecycle_sleep _).advancing.bind fun _ => (keepsLifecycle_log _ _ _).advancing.bind
            fun _ => ih _ _
    refine .ite ?_ ((KeepsLifecycle.pure _).advancing.bind attempt_steady)
    refine (keepsLifecycle_usable).advancing.bind fun _ => ?_
    split
    · exact .pure _
    · exact (keepsLifecycle_metric _).advancing.bind fun _ => (KeepsLifecycle.pure _).advancing.bind
        attempt_steady

theorem sendAndWait_steady (p : Packet) (expect : PacketKind) (timeout : Int) (dupOnRetry : Bool) :
    Advancing Lifecycle.Steady (sendAndWait p expect timeout dupOnRetry) :=
  (keepsLifecycle_client).advancing.bind fun _ => sendAndWaitFrom_steady _ _ _ _ _ _ _ _

theorem keepsLifecycle_nextId : KeepsLifecycle nextId := by
  unfold nextId
  refine (keepsLifecycle_client).bind fun _ => ?_
  split
  exact (keepsLifecycle_modifyClient fun _ => by rfl).bind fun _ => .pure _

theorem subscribeRemote_steady (e : Subscription.Entry HandlerRef) :
    Advancing Lifecycle.Steady (subscribeRemote e) := by
  unfold subscribeRemote
  refine (keepsLifecycle_nextId).advancing.bind fun _ => (keepsLifecycle_client).advancing.bind fun _ =>
    (sendAndWait_steady _ _ _ _).bind fun acked => ?_
  cases acked with
  | error err => exact .pure _
  | ok a => exact .ite (.pure _) ((keepsLifecycle_log _ _ _).advancing.bind fun _ => .pure _)

theorem resubscribeEach_steady (entries : List (Subscription.Entry HandlerRef))
    (first : Option Failure) : Advancing Lifecycle.Steady (resubscribeEach entries first) := by
  induction entries generalizing first with
  | nil => cases first <;> exact .pure _
  | cons e rest ih =>
    refine (subscribeRemote_steady e).bind fun subscribed => ?_
    cases subscribed with
    | ok u => exact ih _
    | error err => exact (keepsLifecycle_log _ _ _).advancing.bind fun _ => ih _

theorem resubscribe_steady : Advancing Lifecycle.Steady resubscribe :=
  (keepsLifecycle_client).advancing.bind fun _ => resubscribeEach_steady _ _

theorem resubscribeDue_steady : Advancing Lifecycle.Steady resubscribeDue := by
  unfold resubscribeDue
  refine (keepsLifecycle_client).advancing.bind fun _ => .ite (.pure _) ?_
  refine (keepsLifecycle_modifyClient fun _ => by rfl).advancing.bind fun _ => ?_
  dsimp only
  refine .ite (resubscribe_steady.bind fun resubscribed => ?_) (.pure _)
  split
  · exact (keepsLifecycle_log _ _ _).advancing.bind fun _ => .pure _
  · exact .pure _

theorem settleFor_steady (fuel : Nat) : Advancing Lifecycle.Steady (settleFor fuel) := by
  induction fuel with
  | zero => exact .pure _
  | succ fuel ih => exact (pump_steady).bind fun _ => resubscribeDue_steady.bind fun _ => .ite ih (.pure _)

theorem settle_steady : Advancing Lifecycle.Steady settle := settleFor_steady _

/-! ## Starting and stopping -/

theorem sendDisconnect_steady : Advancing Lifecycle.Steady sendDisconnect := by
  refine (keepsLifecycle_client).advancing.bind fun _ => ?_
  split
  · refine (writeAndPump_steady _ _).bind fun sent => ?_
    split
    · exact (keepsLifecycle_log _ _ _).advancing
    · exact .pure _
  · exact .pure _

/-- Stopping says goodbye, which keeps the lifecycle steady, and then halts the client. -/
theorem stopRun_halts (w : World) :
    ∃ l, Lifecycle.Advances Lifecycle.Steady w.lifecycle l ∧ (stopRun.run w).2.lifecycle = l.halt := by
  unfold stopRun
  rw [client_bind_run]
  dsimp only
  rw [run_bind_snd, run_bind_snd]
  -- telling the reader to stop keeps the lifecycle; the goodbye keeps it steady
  generalize told : ((modifyClient _).run w).2 = w₂
  have same : w₂.lifecycle = w.lifecycle := by
    rw [← told]
    rfl
  refine ⟨_, same ▸ sendDisconnect_steady w₂, ?_⟩
  -- then the connection goes, the client stops and goes idle
  apply Transforms.of_eq (G := Lifecycle.halt)
  · exact (dropConn_transforms none).bind fun _ =>
      (modifyClient_transforms (F := fun l => { l with running := false }) fun _ => by rfl).bind
      fun _ => (setState_transforms _).bind fun _ => (keepsLifecycle_modifyClient fun _ => by rfl).bind
      fun _ => KeepsLifecycle.ite (keepsLifecycle_log _ _ _) (.pure _)
  · intro l
    simp [Lifecycle.halt]

theorem stopRun_steady : Advancing Lifecycle.Steady stopRun := by
  intro w
  obtain ⟨l, goodbye, halted⟩ := stopRun_halts w
  rw [halted]
  exact goodbye.trans (Lifecycle.advances_halt l)

/-- A start, from a steady client that is not running and has not given up: the budget is given
back, the connect loop keeps the lifecycle kept, and the client then runs, or is left idle or
given up without a connection. -/
theorem start_steady : Advancing Lifecycle.Steady start := by
  intro w
  unfold start
  rw [client_bind_run]
  split
  · exact .refl _ _
  split
  · exact .refl _ _
  split
  · exact .refl _ _
  rename_i notDown idleUnlessStopped
  extract_lets connect
  have connect_steady : ∀ w', w'.lifecycle.Steady → w'.client.running = false →
      w'.client.state ≠ .disconnect →
      Lifecycle.Advances Lifecycle.Steady w'.lifecycle ((connect ()).run w').2.lifecycle := by
    intro w' steady stopped up
    simp only [connect]
    rw [run_bind_snd, run_bind_snd, run_bind_snd, run_bind_snd]
    generalize restoring : ((setState ClientState.linking).run _).2 = w₃
    have restored : w₃.lifecycle =
        { w'.lifecycle with reconnects := 0, budget := w'.lifecycle.budget ++ [.restored],
                            state := .linking } := by
      rw [← restoring, setState_transforms, mark_transforms]
      rfl
    have toConnect : Lifecycle.Advances (Lifecycle.KeptAt false) w'.lifecycle w₃.lifecycle := by
      rw [restored]
      exact (Lifecycle.advances_restore false _).trans (Lifecycle.advances_enter false (by simp) _)
    have ready : Lifecycle.Ready w₃.lifecycle := by
      rw [restored]
      exact ⟨by simp, (steady.stopped stopped).2⟩
    have connected := connectBlocking_advances false w₃ ready
    generalize connectBlocking.run w₃ = out at connected ⊢
    obtain ⟨r, w₄⟩ := out
    dsimp only at connected ⊢
    have kept := toConnect.trans connected
    cases r with
    | error e =>
      -- the connection goes, and the client is idle unless it gave up
      rw [run_bind_snd]
      have dropped := dropConn_transforms none w₄
      generalize (dropConn none).run w₄ = out at dropped ⊢
      obtain ⟨u, w₅⟩ := out
      dsimp only at dropped ⊢
      rw [client_bind_run]
      have kept₅ : Lifecycle.Advances (Lifecycle.KeptAt false) w'.lifecycle w₅.lifecycle := by
        rw [dropped]
        exact kept.trans (Lifecycle.advances_unlink false _ _ (by simp))
      have unlinked : w₅.lifecycle.conn = none := by
        rw [dropped]
        simp
      split
      · rename_i notGivenUp
        rw [run_bind_snd, StateT.run_pure, pure_snd, setState_transforms]
        refine Lifecycle.Advances.rest (kept₅.trans (Lifecycle.advances_enter false (by simp) _))
          stopped (.inl rfl) unlinked
      · rename_i givenUp
        refine Lifecycle.Advances.rest kept₅ stopped (.inr ?_) unlinked
        show w₅.client.state = .disconnect
        simpa using givenUp
    | ok u =>
      -- the client runs, and the rest keeps it steady
      rw [run_bind_snd]
      generalize runs : ((modifyClient _).run w₄).2 = w₅
      have started : Lifecycle.Advances Lifecycle.Steady w'.lifecycle w₅.lifecycle := by
        rw [← runs]
        exact Lifecycle.Advances.run kept stopped
      exact started.trans ((keepsLifecycle_remoteAddr.advancing.bind fun _ =>
        (keepsLifecycle_log _ _ _).advancing.bind fun _ => (pump_steady).bind fun _ =>
        resubscribe_steady) w₅)
  split
  · -- a running client is idle here, and is stopped first
    rw [run_bind_snd]
    intro steady
    obtain ⟨l, _, halted⟩ := stopRun_halts w
    have stopped : (stopRun.run w).2.lifecycle.running = false := by
      rw [halted]
      rfl
    have up : (stopRun.run w).2.lifecycle.state ≠ .disconnect := by
      rw [halted]
      simp [Lifecycle.halt]
    exact ((stopRun_steady w).trans (connect_steady _ ((stopRun_steady w) steady).1 stopped up)) steady
  · rename_i notRunning
    intro steady
    exact connect_steady w steady (by simpa using notRunning) (by simpa using notDown) steady

theorem stop_steady : Advancing Lifecycle.Steady stop :=
  (keepsLifecycle_client).advancing.bind fun _ =>
    .ite (.pure _) (stopRun_steady.bind fun _ => .pure _)

theorem delete_steady : Advancing Lifecycle.Steady delete :=
  (keepsLifecycle_client).advancing.bind fun _ => .ite (.pure _)
    ((keepsLifecycle_modifyClient fun _ => by rfl).advancing.bind fun _ => (stopRun_steady).bind fun _ =>
      (keepsLifecycle_modifyClient fun _ => by rfl).advancing.bind fun _ => .pure _)

theorem disconnect_steady : Advancing Lifecycle.Steady disconnect := by
  refine (keepsLifecycle_client).advancing.bind fun _ => .ite (.pure _) ?_
  refine (sendDisconnect_steady).bind fun _ => (dropConn_steady none).bind fun _ =>
    (keepsLifecycle_client).advancing.bind fun _ => ?_
  exact .ite (setState_idle_steady.bind fun _ => .pure _) (.pure _)

/-! ## The other operations -/

theorem keepsLifecycle_stopReader : KeepsLifecycle stopReader :=
  keepsLifecycle_modifyClient fun _ => by dsimp only [World.lifecycle]; split <;> rfl

theorem keepsLifecycle_setKeepAliveInterval (ms : Int) :
    KeepsLifecycle (setKeepAliveInterval ms) :=
  .ite (.pure _) (keepsLifecycle_now.bind fun _ => (keepsLifecycle_modifyClient fun _ => by rfl).bind fun _ => .pure _)

theorem keepsLifecycle_preparePublish (msg : Option Message) :
    KeepsLifecycle (preparePublish msg) := by
  unfold preparePublish
  split
  · refine (keepsLifecycle_usable).bind fun _ => ?_
    split
    · exact .pure _
    · split
      · exact .pure _
      · exact .ite (.pure _) (.pure _)
  · exact .pure _

theorem publishAcked_steady (p : Publish) (timeout : Int) :
    Advancing Lifecycle.Steady (publishAcked p timeout) := by
  unfold publishAcked
  refine (keepsLifecycle_nextId).advancing.bind fun _ => ?_
  refine .ite ((sendAndWait_steady _ _ _ _).bind fun _ => .pure _) ?_
  refine (sendAndWait_steady _ _ _ _).bind fun released => ?_
  cases released with
  | error e => exact .pure _
  | ok a => exact (sendAndWait_steady _ _ _ _).bind fun _ => .pure _

theorem publish_steady (msg : Option Message) (timeout : Int) :
    Advancing Lifecycle.Steady (publish msg timeout) := by
  refine (keepsLifecycle_preparePublish msg).advancing.bind fun prepared => ?_
  cases prepared with
  | error e => exact .pure _
  | ok p =>
    refine (keepsLifecycle_client).advancing.bind fun _ => ?_
    extract_lets wait publishNow
    have publishNow_steady : ∀ u, Advancing Lifecycle.Steady (publishNow u) := by
      intro u
      simp only [publishNow]
      exact .ite (send_steady _) (publishAcked_steady _ _)
    refine .ite ?_ (publishNow_steady ())
    refine (keepsLifecycle_now).advancing.bind fun _ => ?_
    split
    exact .ite (.pure _) ((keepsLifecycle_modifyClient fun _ => by rfl).advancing.bind fun _ =>
      (keepsLifecycle_sleep _).advancing.bind publishNow_steady)

theorem publishAsync_steady (msg : Option Message) :
    Advancing Lifecycle.Steady (publishAsync msg) := by
  refine (keepsLifecycle_preparePublish msg).advancing.bind fun prepared => ?_
  cases prepared with
  | error e => exact .pure _
  | ok p =>
    refine (keepsLifecycle_client).advancing.bind fun _ => ?_
    extract_lets publishNow numbered
    have numbered_steady : ∀ u, Advancing Lifecycle.Steady (numbered u) := by
      intro u
      simp only [numbered, publishNow]
      exact .ite (keepsLifecycle_nextId.advancing.bind fun _ =>
        (KeepsLifecycle.pure _).advancing.bind fun _ => send_steady _)
        ((KeepsLifecycle.pure _).advancing.bind fun _ => send_steady _)
    refine .ite ?_ (numbered_steady ())
    refine (keepsLifecycle_now).advancing.bind fun _ => ?_
    split
    exact .ite (.pure _) ((keepsLifecycle_modifyClient fun _ => by rfl).advancing.bind numbered_steady)

theorem subscribe_steady (filter : Bytes) (qos : UInt8) (handler : Option HandlerRef) :
    Advancing Lifecycle.Steady (subscribe filter qos handler) := by
  unfold subscribe
  refine (keepsLifecycle_usable).advancing.bind fun _ => ?_
  split
  · exact .pure _
  split
  · exact .pure _
  refine .ite (.pure _) (keepsLifecycle_client.advancing.bind fun _ => .ite (.pure _) (.ite (.pure _) ?_))
  refine (subscribeRemote_steady _).bind fun subscribed => ?_
  split
  · exact .pure _
  refine (keepsLifecycle_client).advancing.bind fun _ => ?_
  split
  · exact .pure _
  · exact (keepsLifecycle_modifyClient fun _ => by rfl).advancing.bind fun _ => .pure _

theorem unsubscribe_steady (filter : Bytes) : Advancing Lifecycle.Steady (unsubscribe filter) := by
  unfold unsubscribe
  refine (keepsLifecycle_usable).advancing.bind fun _ => ?_
  split
  · exact .pure _
  refine .ite (.pure _) (keepsLifecycle_client.advancing.bind fun _ => .ite (.pure _) ?_)
  refine (keepsLifecycle_nextId).advancing.bind fun _ => (keepsLifecycle_client).advancing.bind fun _ =>
    (sendAndWait_steady _ _ _ _).bind fun acked => ?_
  split
  · exact .pure _
  · exact (keepsLifecycle_modifyClient fun _ => by rfl).advancing.bind fun _ => .pure _

theorem control_steady (cmd : Int) (arg : ControlArg) : Advancing Lifecycle.Steady (control cmd arg) := by
  unfold control
  refine (keepsLifecycle_client).advancing.bind fun _ => .ite (.pure _) ?_
  split
  · -- events on or off
    split
    · exact (keepsLifecycle_modifyClient fun _ => by rfl).advancing.bind fun _ => .pure _
    · exact (keepsLifecycle_modifyClient fun _ => by rfl).advancing.bind fun _ => .pure _
    · exact (keepsLifecycle_modifyClient fun _ => by rfl).advancing.bind fun _ => .pure _
    · exact .pure _
  · -- a subscription added to the table only
    dsimp only
    split
    · exact .pure _
    · split
      · exact .pure _
      · refine (keepsLifecycle_client).advancing.bind fun _ => ?_
        split
        · exact .pure _
        · exact (keepsLifecycle_modifyClient fun _ => by rfl).advancing.bind fun _ => .pure _
    · exact .pure _
  · split
    · exact (keepsLifecycle_setKeepAliveInterval _).advancing.bind fun _ => .pure _
    · exact .pure _
  · exact (keepsLifecycle_client).advancing.bind fun _ => .pure _
  · exact (keepsLifecycle_stopReader).advancing.bind fun _ => .pure _
  · exact (disconnect_steady).bind fun _ => .pure _
  · exact .pure _

/-! ## The timer -/

theorem writeAndPump_advances (b : Bool) (conn : Nat) (p : Packet) :
    Advancing (Lifecycle.KeptAt b) (writeAndPump conn p) :=
  (keepsLifecycle_writePacket _ _).advancing.bind fun _ => (pump_advances b).bind fun _ => .pure _

theorem keepAliveTick_advances (b : Bool) (t : Int) :
    Advancing (Lifecycle.KeptAt b) (keepAliveTick t) := by
  unfold keepAliveTick
  refine (keepsLifecycle_client).advancing.bind fun _ => .ite (.pure _) ?_
  split
  refine (keepsLifecycle_modifyClient fun _ => by rfl).advancing.bind fun _ => ?_
  split
  · exact (setState_advances b (by decide)).bind fun _ => (keepsLifecycle_log _ _ _).advancing
  · split
    · refine (writeAndPump_advances b _ _).bind fun pinged => ?_
      split
      · exact (keepsLifecycle_log _ _ _).advancing
      · exact (keepsLifecycle_emit _).advancing
    · exact .pure _
  · exact .pure _

/-- The keep-alive part of the timer acts only on a linked client, which runs. -/
theorem keepAliveTick_steady (t : Int) : Advancing Lifecycle.Steady (keepAliveTick t) := by
  refine (keepAliveTick_advances true t).steady fun w steady stopped => ?_
  unfold keepAliveTick
  rw [client_bind_run]
  have notLinked : (w.client.state != .linked) = true := by
    rcases (steady.stopped stopped).1 with idle | down
    · simp [show w.client.state = .idle from idle]
    · simp [show w.client.state = .disconnect from down]
  rw [if_pos notLinked]
  rfl

theorem connectOnce_advances (b : Bool) :
    AdvancingFrom (fun l => l.reconnects < l.reconnectMax ∧ l.state ≠ .disconnect)
      (Lifecycle.KeptAt b) connectOnce := by
  intro w ⟨budgetLeft, up⟩
  rw [connectOnce_attempt]
  exact Lifecycle.advances_attempt b _ budgetLeft up

/-- The reconnect part of the timer: an unlinked client loses its connection, and one waiting to
reconnect makes one paced attempt, or gives up when its budget is used up. -/
theorem reconnectTick_advances (b : Bool) (t : Int) :
    Advancing (Lifecycle.KeptAt b) (reconnectTick t) := by
  intro w
  unfold reconnectTick
  rw [client_bind_run]
  split
  · refine ((modifyClient_transforms (F := fun l => { l with conn := none }) fun _ => by rfl).advancing
      fun l => Lifecycle.advances_unlink b l none (.inl rfl)).bind
      (fun _ => (setState_advances b (by decide)).bind fun _ => (keepsLifecycle_emit _).advancing.bind
      fun _ => ?_) w
    split
    · exact (keepsLifecycle_closeLink _).advancing.bind fun _ => .pure _
    · exact .pure _
  · rename_i waiting
    split
    · exact .refl _ _
    split
    · exact ((modifyClient_transforms (F := fun l => { l with conn := none }) fun _ => by rfl).advancing
        fun l => Lifecycle.advances_unlink b l none (.inl rfl)).bind
        (fun _ => (keepsLifecycle_closeLink _).advancing.bind fun _ => .pure _) w
    · rename_i noConnection
      have unlinked : w.client.conn = none := Option.eq_none_iff_forall_ne_some.mpr noConnection
      split
      · rename_i usedUp
        exact Transforms.advances ((setState_transforms _).bind fun _ => (mark_transforms _).bind
          fun _ => (keepsLifecycle_log _ _ _).bind fun _ => KeepsLifecycle.pure _)
          (Lifecycle.advances_exhaust b usedUp unlinked)
      · rename_i budgetLeft
        refine (AdvancingFrom.kept_bind (keepsLifecycle_modifyClient fun _ => by rfl) fun _ =>
          .kept_bind (keepsLifecycle_metric _) fun _ => (connectOnce_advances b).bind_advancing
          fun attempted => ?_) w ⟨lt_of_not_ge budgetLeft, by simp [World.lifecycle, waiting]⟩
        -- a failed attempt is only logged; the reader then runs
        have rest : Advancing (Lifecycle.KeptAt b) (do pump; emit .link; pure false) :=
          (pump_advances b).bind fun _ => (keepsLifecycle_emit _).advancing.bind fun _ => .pure _
        dsimp only
        split
        · exact (keepsLifecycle_remoteAddr).advancing.bind fun _ =>
            (keepsLifecycle_log _ _ _).advancing.bind fun _ => rest
        · exact rest
  · exact .refl _ _
  · exact .refl _ _

theorem reconnectTick_steady (t : Int) : Advancing Lifecycle.Steady (reconnectTick t) := by
  refine (reconnectTick_advances true t).steady fun w steady stopped => ?_
  unfold reconnectTick
  rw [client_bind_run]
  rcases (steady.stopped stopped).1 with idle | down
  · rw [show w.client.state = .idle from idle]
    rfl
  · rw [show w.client.state = .disconnect from down]
    rfl

theorem Advancing.forIn {I : Lifecycle → Prop} {β : Type} (l : List β) (init : PUnit)
    (g : β → PUnit → Sim (ForInStep PUnit)) (hg : ∀ b u, Advancing I (g b u)) :
    Advancing I (forIn l init g) := by
  induction l generalizing init with
  | nil => exact .pure _
  | cons b rest ih =>
    rw [List.forIn_cons]
    refine (hg b init).bind fun step => ?_
    cases step with
    | done u => exact .pure _
    | yield u => exact ih u

theorem LogsOnly.keepsLifecycle {α : Type} {x : Sim α} (h : LogsOnly x) : KeepsLifecycle x := by
  intro w
  obtain ⟨logs, logged⟩ := h w
  rw [logged]
  rfl

theorem keepsLifecycle_qos2Cycle (t : Int) : KeepsLifecycle (qos2Cycle t) := by
  unfold qos2Cycle
  refine (keepsLifecycle_client).bind fun _ => ?_
  split
  refine (keepsLifecycle_modifyClient fun _ => by rfl).bind fun _ => ?_
  dsimp only
  exact .ite ((keepsLifecycle_metric _).bind fun _ =>
      (logsOnly_forIn _ _ fun _ => logsOnly_log _ _ _).keepsLifecycle.bind fun _ => .pure _)
    (.pure _)

theorem qos2Tick_steady (t : Int) : Advancing Lifecycle.Steady (qos2Tick t) := by
  unfold qos2Tick
  refine (keepsLifecycle_qos2Cycle t).advancing.bind fun _ => .ite (.pure _) ?_
  refine (keepsLifecycle_client).advancing.bind fun _ => ?_
  split
  · exact Advancing.forIn _ _ _ fun _ _ => (keepsLifecycle_reply _ _).advancing.bind fun _ =>
      (pump_steady).bind fun _ => .pure _
  · exact .pure _

theorem tick_steady (t : Int) : Advancing Lifecycle.Steady (tick t) :=
  (keepAliveTick_steady t).bind fun _ => (reconnectTick_steady t).bind fun _ =>
    .ite (.pure _) ((qos2Tick_steady t).bind fun _ => .pure _)

/-! ## Steps of a session -/

theorem Advancing.map {I : Lifecycle → Prop} {α β : Type} {x : Sim α} (f : α → β)
    (hx : Advancing I x) : Advancing I (f <$> x) :=
  fun w => hx w

theorem keepsLifecycle_onNewestLink (f : Nat → Network → Network) :
    KeepsLifecycle (onNewestLink f) := by
  refine (keepsLifecycle_get).bind fun _ => ?_
  split
  · exact .pure _
  · exact (keepsLifecycle_modifyNet _).bind fun _ => .pure _

theorem runStep_steady (s : Step) : Advancing Lifecycle.Steady (runStep s) := by
  cases s with
  | start => exact (start_steady).map _
  | stop => exact (stop_steady).map _
  | delete => exact (delete_steady).map _
  | disconnect => exact (disconnect_steady).map _
  | stopReader =>
    exact (keepsLifecycle_stopReader.bind fun _ => (keepsLifecycle_sleep _).bind fun _ => .pure _).advancing
  | publish m t => exact (publish_steady m t).map _
  | publishAsync m => exact (publishAsync_steady m).map _
  | subscribe f q h => exact (subscribe_steady f q _).map _
  | unsubscribe f => exact (unsubscribe_steady f).map _
  | subscriptions => exact (keepsLifecycle_client.bind fun _ => .pure _).advancing
  | setKeepAlive ms => exact (keepsLifecycle_setKeepAliveInterval ms).advancing.map _
  | control cmd arg =>
    refine (control_steady cmd arg).bind fun _ => ?_
    dsimp only
    exact .ite ((keepsLifecycle_sleep _).advancing.bind fun _ => .pure _) (.pure _)
  | tick advance => exact (keepsLifecycle_now).advancing.bind fun _ => (tick_steady _).bind fun _ => .pure _
  | broker c => exact ((keepsLifecycle_modifyNet _).bind fun _ => .pure _).advancing
  | inject b => exact (keepsLifecycle_onNewestLink _).advancing
  | brokerClose => exact (keepsLifecycle_onNewestLink _).advancing

/-- An action that keeps the lifecycle steady, run from a world whose ledger was just cleared,
leaves a ledger that replays from the counter the world had. -/
theorem Advancing.afresh {α : Type} {x : Sim α} (hx : Advancing Lifecycle.Steady x) {w₀ w : World}
    (cleared : w.lifecycle = { w₀.lifecycle with budget := [] }) (steady : w₀.lifecycle.Steady) :
    (x.run w).2.lifecycle.Steady ∧
      (x.run w).2.client.options.reconnectMax = w₀.client.options.reconnectMax ∧
      BudgetMark.replay w₀.client.options.reconnectMax w₀.client.reconnects (x.run w).2.trace.budget =
        some (x.run w).2.client.reconnects := by
  have advances := hx w
  rw [cleared] at advances
  obtain ⟨steady', max, marks, ledger, replays⟩ :=
    advances ⟨⟨steady.counted, steady.within, steady.down_unlinked⟩, steady.stopped⟩
  have fresh : (x.run w).2.lifecycle.budget = marks := by simpa using ledger
  refine ⟨steady', max, ?_⟩
  show BudgetMark.replay _ _ (x.run w).2.lifecycle.budget = _
  rw [fresh]
  exact replays

/-- A step of a session keeps the lifecycle steady, and the ledger it leaves, which the step starts
afresh, replays from the counter before the step to the counter after it. -/
theorem perform_steady (withLogs : Bool) (s : Step) (w : World) (steady : w.lifecycle.Steady) :
    ((perform withLogs s).run w).2.lifecycle.Steady ∧
      ((perform withLogs s).run w).2.client.options.reconnectMax = w.client.options.reconnectMax ∧
      BudgetMark.replay w.client.options.reconnectMax w.client.reconnects
        ((perform withLogs s).run w).2.trace.budget = some ((perform withLogs s).run w).2.client.reconnects := by
  unfold perform
  rw [run_bind_snd, run_bind_snd]
  generalize cleared : ((modify fun w => { w with trace := {} } : Sim Unit).run _).2 = w₁
  have afresh : w₁.lifecycle = { w.lifecycle with budget := [] } := by
    rw [← cleared]
    rfl
  refine Advancing.afresh ?_ afresh steady
  exact (runStep_steady s).bind fun _ => (settle_steady).bind fun _ =>
    (keepsLifecycle_get).advancing.bind fun _ => .pure _

end Sim

end Mqtt
