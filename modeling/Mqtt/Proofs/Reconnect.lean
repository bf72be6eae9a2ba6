import Mqtt.Proofs.Lifecycle
/-! # Reconnecting within the budget

The blocking connect, the reader's reaction to a lost connection and the reader's turns, seen
through the lifecycle. The connect loop is entered only by a client that has not given up and
holds no connection (`Lifecycle.Ready`); from there every attempt it makes finds budget left,
because the loop gives up first when none is left, and every failed attempt leaves no connection
behind, so that giving up finds the client without one. Nothing here starts or stops the client.
-/

namespace Mqtt

namespace Lifecycle

/-- Ready to connect: not given up, and without a connection. -/
def Ready (l : Lifecycle) : Prop := l.state ≠ .disconnect ∧ l.conn = none

/-- Forgetting the connection, or keeping it, keeps the lifecycle kept. -/
theorem advances_unlink (b : Bool) (l : Lifecycle) (conn : Option Nat)
    (forgets : conn = none ∨ conn = l.conn) : Advances (KeptAt b) l { l with conn := conn } := by
  refine advances_of_budget (fun h => ⟨⟨h.counted, h.within, fun down => ?_⟩, h.runs⟩) rfl rfl rfl
  rcases forgets with forgotten | kept
  · exact forgotten
  · exact kept.trans (h.down_unlinked down)

/-- Entering any state but the given-up one keeps the lifecycle kept. -/
theorem advances_enter (b : Bool) {s : ClientState} (notDown : s ≠ .disconnect) (l : Lifecycle) :
    Advances (KeptAt b) l { l with state := s } :=
  advances_of_budget (fun h => ⟨⟨h.counted, h.within, fun down => absurd down notDown⟩, h.runs⟩)
    rfl rfl rfl

end Lifecycle

namespace Sim

/-- From every world whose lifecycle satisfies `P`, every run of `x` advances the lifecycle
keeping `I`. -/
def AdvancingFrom (P I : Lifecycle → Prop) {α : Type} (x : Sim α) : Prop :=
  ∀ w, P w.lifecycle → Lifecycle.Advances I w.lifecycle (x.run w).2.lifecycle

section AdvancingFrom

variable {P I : Lifecycle → Prop} {α β : Type} {x : Sim α} {f : α → Sim β}

theorem AdvancingFrom.kept_bind (hx : KeepsLifecycle x) (hf : ∀ a, AdvancingFrom P I (f a)) :
    AdvancingFrom P I (x >>= f) := by
  intro w hp
  have h := hf (x.run w).1 (x.run w).2 (by rw [hx w]; exact hp)
  rw [hx w] at h
  exact h

theorem Transforms.advances {F : Lifecycle → Lifecycle} (hx : Transforms x F) {w : World}
    (h : Lifecycle.Advances I w.lifecycle (F w.lifecycle)) :
    Lifecycle.Advances I w.lifecycle (x.run w).2.lifecycle := by
  rw [hx w]
  exact h

theorem AdvancingFrom.transforms_bind {Q : Lifecycle → Prop} {F : Lifecycle → Lifecycle}
    (hx : Transforms x F) (step : ∀ l, P l → Lifecycle.Advances I l (F l)) (post : ∀ l, P l → Q (F l))
    (hf : ∀ a, AdvancingFrom Q I (f a)) : AdvancingFrom P I (x >>= f) := by
  intro w hp
  have h := hf (x.run w).1 (x.run w).2 (by rw [hx w]; exact post _ hp)
  rw [hx w] at h
  exact (step _ hp).trans h

theorem AdvancingFrom.bind_advancing (hx : AdvancingFrom P I x) (hf : ∀ a, Advancing I (f a)) :
    AdvancingFrom P I (x >>= f) :=
  fun w hp => (hx w hp).trans (hf _ _)

theorem Advancing.from (hx : Advancing I x) : AdvancingFrom P I x := fun w _ => hx w

end AdvancingFrom

/-- Moving to any state but giving up keeps the lifecycle kept. -/
theorem setState_advances (b : Bool) {s : ClientState} (notDown : s ≠ .disconnect) :
    Advancing (Lifecycle.KeptAt b) (setState s) :=
  (setState_transforms s).advancing (Lifecycle.advances_enter b notDown)

/-- The connect loop, entered ready to connect, keeps the lifecycle kept. -/
theorem connectBlockingLoop_advances (b : Bool) (lastErr : Option Failure) (fuel : Nat) :
    AdvancingFrom Lifecycle.Ready (Lifecycle.KeptAt b) (connectBlockingLoop lastErr fuel) := by
  induction fuel generalizing lastErr with
  | zero => exact fun w _ => .refl _ _
  | succ fuel ih =>
    intro w ⟨notDown, unlinked⟩
    unfold connectBlockingLoop
    rw [client_bind_run]
    split
    · rename_i usedUp
      exact Transforms.advances ((setState_transforms _).bind fun _ => (mark_transforms _).bind
        fun _ => (keepsLifecycle_log _ _ _).bind fun _ => KeepsLifecycle.pure _)
        (Lifecycle.advances_exhaust b usedUp unlinked)
    · rename_i budgetLeft
      rw [run_bind_snd]
      have attempted := connectOnce_attempt w
      generalize connectOnce.run w = first at attempted ⊢
      obtain ⟨r, w₁⟩ := first
      dsimp only at attempted ⊢
      have spent : Lifecycle.Advances (Lifecycle.KeptAt b) w.lifecycle w₁.lifecycle := by
        rw [attempted]
        exact Lifecycle.advances_attempt b r (lt_of_not_ge budgetLeft) notDown
      cases r with
      | error e =>
        -- a failed attempt leaves the client without a connection, ready to try again
        have ready : Lifecycle.Ready w₁.lifecycle := by
          rw [attempted]
          exact ⟨notDown, unlinked⟩
        exact spent.trans (AdvancingFrom.kept_bind (.pure _) (fun err =>
          .kept_bind keepsLifecycle_remoteAddr fun _ => .kept_bind (keepsLifecycle_log _ _ _) fun _ =>
          .kept_bind keepsLifecycle_client fun _ => .kept_bind (keepsLifecycle_sleep _) fun _ =>
          ih (some err)) w₁ ready)
      | ok x =>
        have linked : w₁.lifecycle.conn = some x := by
          rw [attempted]
          rfl
        rw [run_bind_snd]
        have answered := awaitConnack_answers x w₁
        generalize (awaitConnack x).run w₁ = second at answered ⊢
        obtain ⟨r₂, w₂⟩ := second
        dsimp only at answered ⊢
        have waited := answered.advances b
        -- the answer decides whether the loop ends here
        generalize answer : w₂.lifecycle = l₂ at answered
        cases answered with
        | accepted => exact spent.trans waited
        | refused e refusal =>
          simp only [refusal, if_true]
          exact spent.trans waited
        | unchanged r₂ =>
          cases r₂ with
          | ok u => exact spent.trans waited
          | error e =>
            dsimp only
            split
            · exact spent.trans waited
            · -- a wait that failed otherwise drops the connection it was made on
              rw [run_bind_snd]
              have dropped := dropConn_transforms (some x) w₂
              generalize (dropConn (some x)).run w₂ = third at dropped ⊢
              obtain ⟨u, w₃⟩ := third
              dsimp only at dropped ⊢
              have unlinked₃ : w₃.lifecycle = { w₁.lifecycle with conn := none } := by
                rw [dropped, answer, linked]
                simp
              have released : Lifecycle.Advances (Lifecycle.KeptAt b) w₁.lifecycle w₃.lifecycle := by
                rw [unlinked₃]
                exact Lifecycle.advances_unlink b _ none (.inl rfl)
              have ready : Lifecycle.Ready w₃.lifecycle := by
                rw [unlinked₃, attempted]
                exact ⟨notDown, rfl⟩
              split
              · exact spent.trans released
              · exact spent.trans (released.trans (AdvancingFrom.kept_bind (.pure _) (fun err =>
                  .kept_bind keepsLifecycle_remoteAddr fun _ => .kept_bind (keepsLifecycle_log _ _ _)
                  fun _ => .kept_bind keepsLifecycle_client fun _ => .kept_bind (keepsLifecycle_sleep _)
                  fun _ => ih (some err)) w₃ ready))

theorem connectBlocking_advances (b : Bool) :
    AdvancingFrom Lifecycle.Ready (Lifecycle.KeptAt b) connectBlocking :=
  AdvancingFrom.kept_bind keepsLifecycle_client fun _ => connectBlockingLoop_advances b none _

theorem handleFin_advances (b : Bool) (conn : Nat) :
    Advancing (Lifecycle.KeptAt b) (handleFin conn) := by
  intro w
  unfold handleFin
  rw [client_bind_run]
  split
  · exact .refl _ _
  · -- the current connection is lost: it is forgotten, and a linked client reconnects at once
    refine AdvancingFrom.transforms_bind (P := fun _ => True) (Q := fun l => l.conn = none)
      (modifyClient_transforms (F := fun l => { l with conn := none }) fun _ => by rfl)
      (fun l _ => Lifecycle.advances_unlink b l none (.inl rfl)) (fun _ _ => rfl) (fun _ => ?_) w trivial
    cases linked : w.client.state == .linked <;>
      simp only [Bool.not_false, Bool.not_true, Bool.false_eq_true, ↓reduceIte]
    · -- a client that was not linked leaves reconnecting to its timer
      exact Advancing.from ((keepsLifecycle_closeLink _).bind fun _ =>
        (keepsLifecycle_client).bind fun _ => .pure _).advancing
    · refine AdvancingFrom.transforms_bind (Q := Lifecycle.Ready) (setState_transforms _)
        (fun l _ => Lifecycle.advances_enter b (by decide) l)
        (fun _ unlinked => ⟨by simp, unlinked⟩) fun _ => ?_
      refine .kept_bind (keepsLifecycle_closeLink _) fun _ => .kept_bind keepsLifecycle_remoteAddr
        fun _ => .kept_bind (keepsLifecycle_log _ _ _) fun _ => .kept_bind keepsLifecycle_client
        fun _ => .kept_bind (keepsLifecycle_sleep _) fun _ => .kept_bind (keepsLifecycle_metric _)
        fun _ => (connectBlocking_advances b).bind_advancing fun r => ?_
      -- a reconnect that timed out hands over to the timer
      cases r with
      | ok u => exact .pure _
      | error e =>
        exact .ite ((setState_advances b (by decide)).bind fun _ =>
          (keepsLifecycle_now).advancing.bind fun _ =>
          (keepsLifecycle_modifyClient fun _ => by rfl).advancing.bind
          fun _ => .pure _)
          ((keepsLifecycle_log _ _ _).bind fun _ => (keepsLifecycle_client).bind fun _ => .pure _).advancing

/-! ## The reader -/

theorem keepsLifecycle_dispatch (m : Message) : KeepsLifecycle (dispatch m) := by
  unfold dispatch
  refine (keepsLifecycle_client).bind fun _ => ?_
  split
  exact (keepsLifecycle_record fun _ => by rfl).bind fun _ => .ite (keepsLifecycle_log _ _ _) (.pure _)

theorem keepsLifecycle_reply (conn : Nat) (p : Packet) : KeepsLifecycle (reply conn p) := by
  unfold reply
  refine (keepsLifecycle_writePacket _ _).bind fun _ => ?_
  split
  · exact keepsLifecycle_log _ _ _
  · exact .pure _

theorem keepsLifecycle_pushAck (a : Ack) : KeepsLifecycle (pushAck a) := by
  unfold pushAck
  refine (keepsLifecycle_client).bind fun _ => ?_
  split
  exact (keepsLifecycle_modifyClient fun _ => by rfl).bind fun _ => .ite (keepsLifecycle_log _ _ _) (.pure _)

theorem keepsLifecycle_handlePublish (conn : Nat) (p : Publish) :
    KeepsLifecycle (handlePublish conn p) := by
  unfold handlePublish
  refine .ite ?_ ((keepsLifecycle_dispatch _).bind fun _ => .ite (keepsLifecycle_reply _ _) (.pure _))
  refine (keepsLifecycle_client).bind fun _ => (keepsLifecycle_now).bind fun _ => ?_
  split
  · exact (keepsLifecycle_modifyClient fun _ => by rfl).bind fun _ => keepsLifecycle_reply _ _
  · exact (keepsLifecycle_log _ _ _).bind fun _ => keepsLifecycle_reply _ _

/-- A packet read changes the lifecycle only if it is a CONNACK. -/
theorem handlePacket_advances (b : Bool) (conn : Nat) (p : Packet) :
    Advancing (Lifecycle.KeptAt b) (handlePacket conn p) := by
  unfold handlePacket
  refine (keepsLifecycle_now).advancing.bind fun _ => (keepsLifecycle_modifyClient fun _ => by rfl).advancing.bind
    fun _ => ?_
  cases p
  case connack a =>
    exact Advancing.bind (fun w => (handleConnack_answers a w).advances b) fun _ => .pure _
  case publish q => exact (keepsLifecycle_handlePublish _ _).advancing
  case pubrel i =>
    refine (keepsLifecycle_client.bind fun _ => ?_).advancing
    split
    refine (keepsLifecycle_modifyClient fun _ => by rfl).bind fun _ => ?_
    split
    · exact (keepsLifecycle_dispatch _).bind fun _ => keepsLifecycle_reply _ _
    · exact keepsLifecycle_reply _ _
  case pingresp => exact .pure _
  -- acknowledgments are queued for their waiter
  case puback | pubrec | pubcomp | suback | unsuback => exact (keepsLifecycle_pushAck _).advancing
  -- the packets a broker never sends are logged
  case connect | subscribe | unsubscribe | pingreq | disconnect =>
    exact (keepsLifecycle_log _ _ _).advancing

/-- A turn of the reader keeps the lifecycle kept: what it reads is handled, and a lost connection
handled by `handleFin`. -/
theorem readerTurn_advances (b : Bool) : Advancing (Lifecycle.KeptAt b) readerTurn := by
  unfold readerTurn
  refine (keepsLifecycle_client).advancing.bind fun _ => .ite (.pure _) ?_
  refine (keepsLifecycle_get).advancing.bind fun _ => ?_
  dsimp only
  split
  · exact ((keepsLifecycle_modifyClient fun _ => by rfl).bind fun _ => .pure _).advancing
  · refine (keepsLifecycle_modifyClient fun _ => by rfl).advancing.bind fun _ =>
      (keepsLifecycle_readPacket _ _).advancing.bind fun outcome => ?_
    cases outcome with
    | idle => exact .pure _
    | packet p =>
      exact (handlePacket_advances b _ p).bind fun _ => (keepsLifecycle_client).advancing.bind fun _ =>
        .ite (((keepsLifecycle_modifyClient fun _ => by rfl).bind fun _ => .pure _).advancing) (.pure _)
    | failed e =>
      refine .ite ((keepsLifecycle_log _ _ _).bind fun _ => .pure _).advancing
        (.ite ((keepsLifecycle_log _ _ _).bind fun _ => .pure _).advancing ?_)
      exact (keepsLifecycle_log _ _ _).advancing.bind fun _ => (keepsLifecycle_modifyClient fun _ => by rfl).advancing.bind
        fun _ => (handleFin_advances b _).bind fun _ =>
        .ite (((keepsLifecycle_modifyClient fun _ => by rfl).bind fun _ => .pure _).advancing) (.pure _)

theorem pumpFor_advances (b : Bool) (fuel : Nat) : Advancing (Lifecycle.KeptAt b) (pumpFor fuel) := by
  induction fuel with
  | zero => exact .pure _
  | succ fuel ih =>
    refine (readerTurn_advances b).bind fun turn => ?_
    cases turn with
    | blocked => exact .pure _
    | progressed => exact ih

theorem pump_advances (b : Bool) : Advancing (Lifecycle.KeptAt b) pump := pumpFor_advances b _

end Sim

end Mqtt
