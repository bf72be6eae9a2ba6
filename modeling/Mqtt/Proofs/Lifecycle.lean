import Mqtt.Proofs.Inbound
import Mqtt.Script.Session
/-! # The lifecycle of a client

What every action of a client keeps about its link to the broker: the reconnect counter stays
within the budget, a client that gave up holds no connection, and a client that is not running is
idle or gave up and holds no connection (`Lifecycle.Steady`). Alongside, the ledger of the
reconnect budget replays (`BudgetMark.replay`): every connection attempt finds fewer attempts
counted since the last restore than the budget allows, and every give-up finds exactly the budget
used up.

Each action gets one lemma saying that it `Moves` worlds by `Lifecycle.Advances`, the relation
that keeps steadiness and replays the marks the action adds to the ledger. Most actions leave the
lifecycle alone (`KeepsLifecycle`); the few that change it are the state changes, the connection
attempts with the CONNACK that answers them, losing a connection, and the timer's reconnect part.
A connection attempt is taken only with budget left and a client that has not given up, which is
what every caller checks first; inside a start the client is not yet running, so the connect loop
keeps the weaker `Lifecycle.Kept`.
-/

namespace Mqtt

/-! ## The ledger of the reconnect budget -/

namespace BudgetMark

/-- Replays ledger marks from a count of `r` attempts since the budget was last restored: an
attempt needs a count below `max` and adds one, a restore counts from zero, and a give-up needs the
count at `max`. The count at the end, or `none` where a mark finds the count wrong. -/
def replay (max : Int) : Int → List BudgetMark → Option Int
  | r, [] => some r
  | r, .spent :: marks => if r < max then replay max (r + 1) marks else none
  | _, .restored :: marks => replay max 0 marks
  | r, .exhausted :: marks => if r = max then replay max r marks else none

@[simp] theorem replay_nil (max r : Int) : replay max r [] = some r := rfl

theorem replay_append (max r : Int) (first rest : List BudgetMark) :
    replay max r (first ++ rest) = (replay max r first).bind fun r' => replay max r' rest := by
  induction first generalizing r with
  | nil => rfl
  | cons m marks ih =>
    cases m with
    | spent => by_cases h : r < max <;> simp [replay, h, ih]
    | restored => simp [replay, ih]
    | exhausted => by_cases h : r = max <;> simp [replay, h, ih]

/-- Replaying from a count within `0..max` ends within `0..max`. -/
theorem replay_within {max r r' : Int} {marks : List BudgetMark} (h : replay max r marks = some r')
    (h0 : 0 ≤ r) (hr : r ≤ max) : 0 ≤ r' ∧ r' ≤ max := by
  induction marks generalizing r with
  | nil =>
    simp only [replay, Option.some.injEq] at h
    subst h
    exact ⟨h0, hr⟩
  | cons m marks ih =>
    cases m with
    | spent =>
      simp only [replay] at h
      split at h
      · exact ih h (by omega) (by omega)
      · cases h
    | restored => exact ih h le_rfl (by omega)
    | exhausted =>
      simp only [replay] at h
      split at h
      · exact ih h h0 hr
      · cases h

/-- The connection attempts a ledger shows since its last restore, counting `n` before it. -/
def attemptsSince (n : Nat) : List BudgetMark → Nat
  | [] => n
  | .spent :: marks => attemptsSince (n + 1) marks
  | .restored :: marks => attemptsSince 0 marks
  | .exhausted :: marks => attemptsSince n marks

/-- A replay that goes through counts exactly the attempts since the last restore. -/
theorem replay_attempts {max : Int} {n : Nat} {r : Int} {marks : List BudgetMark}
    (h : replay max n marks = some r) : r = attemptsSince n marks := by
  induction marks generalizing n with
  | nil =>
    simp only [replay, Option.some.injEq] at h
    exact h.symm
  | cons m marks ih =>
    cases m with
    | spent =>
      simp only [replay] at h
      split at h
      · exact ih (n := n + 1) (by simpa using h)
      · cases h
    | restored => exact ih (n := 0) h
    | exhausted =>
      simp only [replay] at h
      split at h
      · exact ih h
      · cases h

/-- A give-up that replays finds the count at the budget. -/
theorem replay_exhausted {max r r' : Int} {marks : List BudgetMark}
    (h : replay max r (.exhausted :: marks) = some r') : r = max := by
  simp only [replay] at h
  split at h
  · assumption
  · cases h

/-- A ledger that replays replays in two parts, the second from where the first ends. -/
theorem replay_split {max r r' : Int} {first rest : List BudgetMark}
    (h : replay max r (first ++ rest) = some r') :
    ∃ rf, replay max r first = some rf ∧ replay max rf rest = some r' := by
  rw [replay_append] at h
  cases hf : replay max r first with
  | none => rw [hf] at h; cases h
  | some rf =>
    rw [hf, Option.bind_some] at h
    exact ⟨rf, rfl, h⟩

end BudgetMark

/-! ## The lifecycle view -/

/-- What a client's lifecycle shows: its state, its connection, whether it runs, the reconnect
counter and budget, and the ledger of the budget. -/
structure Lifecycle where
  state : ClientState
  conn : Option Nat
  running : Bool
  reconnects : Int
  reconnectMax : Int
  budget : List BudgetMark

/-- The lifecycle of a world's client. -/
def World.lifecycle (w : World) : Lifecycle :=
  ⟨w.client.state, w.client.conn, w.client.running, w.client.reconnects,
    w.client.options.reconnectMax, w.trace.budget⟩

namespace Lifecycle

/-- What holds of a lifecycle even inside a start: the counter within the budget, and no
connection once the client gave up. -/
structure Kept (l : Lifecycle) : Prop where
  counted : 0 ≤ l.reconnects
  within : l.reconnects ≤ l.reconnectMax
  down_unlinked : l.state = .disconnect → l.conn = none

/-- What holds of a lifecycle between the actions of a client: it is kept, and a client that is
not running is idle or gave up, and holds no connection. -/
structure Steady (l : Lifecycle) : Prop extends Kept l where
  stopped : l.running = false → (l.state = .idle ∨ l.state = .disconnect) ∧ l.conn = none

/-- The lifecycle `l'` follows `l` keeping the invariant `I`: the budget is the same, the ledger
only grows, and its new marks replay from the counter of `l` to the counter of `l'`. -/
def Advances (I : Lifecycle → Prop) (l l' : Lifecycle) : Prop :=
  I l → I l' ∧ l'.reconnectMax = l.reconnectMax ∧
    ∃ marks, l'.budget = l.budget ++ marks ∧
      BudgetMark.replay l.reconnectMax l.reconnects marks = some l'.reconnects

theorem Advances.refl (I : Lifecycle → Prop) (l : Lifecycle) : Advances I l l :=
  fun h => ⟨h, rfl, [], by simp, rfl⟩

theorem Advances.trans {I : Lifecycle → Prop} {l₁ l₂ l₃ : Lifecycle} (h₁ : Advances I l₁ l₂)
    (h₂ : Advances I l₂ l₃) : Advances I l₁ l₃ := by
  intro hi
  obtain ⟨hi₂, hmax₂, m₁, hb₂, hr₂⟩ := h₁ hi
  obtain ⟨hi₃, hmax₃, m₂, hb₃, hr₃⟩ := h₂ hi₂
  refine ⟨hi₃, hmax₃.trans hmax₂, m₁ ++ m₂, by rw [hb₃, hb₂, List.append_assoc], ?_⟩
  rw [BudgetMark.replay_append, hr₂, Option.bind_some, ← hmax₂, hr₃]

/-- A lifecycle with its counter and ledger unchanged advances by keeping `I`. -/
theorem advances_of_budget {I : Lifecycle → Prop} {l l' : Lifecycle} (hi : I l → I l')
    (hr : l'.reconnects = l.reconnects) (hmax : l'.reconnectMax = l.reconnectMax)
    (hb : l'.budget = l.budget) : Advances I l l' :=
  fun h => ⟨hi h, hmax, [], by simp [hb], by simp [hr]⟩

/-- `Kept`, with the client running or not as `b` says: what the actions that neither start nor
stop the client keep. -/
structure KeptAt (b : Bool) (l : Lifecycle) : Prop extends Kept l where
  runs : l.running = b

/-! ### What a connection attempt and its answer do -/

/-- A refused CONNACK: the client gives up and holds no connection. -/
def refuse (l : Lifecycle) : Lifecycle := { l with state := .disconnect, conn := none }

/-- An accepted CONNACK: the client is linked and has its whole budget back. -/
def accept (l : Lifecycle) : Lifecycle :=
  { l with state := .linked, reconnects := 0, budget := l.budget ++ [.restored] }

/-- A connection attempt uses one unit of the budget; the connection it made, if it made one,
becomes the current one. -/
def attempt (l : Lifecycle) (r : Except Failure Nat) : Lifecycle :=
  { l with reconnects := l.reconnects + 1, budget := l.budget ++ [.spent],
           conn := match r with | .ok x => some x | .error _ => l.conn }

/-- The client gives up with its budget used up. -/
def exhaust (l : Lifecycle) : Lifecycle :=
  { l with state := .disconnect, budget := l.budget ++ [.exhausted] }

section Effects

variable (b : Bool) {l : Lifecycle}

theorem advances_refuse (l : Lifecycle) : Advances (KeptAt b) l l.refuse :=
  advances_of_budget (fun h => ⟨⟨h.counted, h.within, fun _ => rfl⟩, h.runs⟩) rfl rfl rfl

theorem advances_accept (l : Lifecycle) : Advances (KeptAt b) l l.accept := by
  intro h
  have nonneg : (0 : Int) ≤ l.reconnectMax := h.counted.trans h.within
  exact ⟨⟨⟨le_rfl, nonneg, fun linked => by cases linked⟩, h.runs⟩, rfl, [.restored], rfl, rfl⟩

/-- An attempt keeps the lifecycle only with budget left and a client that has not given up: the
new connection must not belong to a client that gave up. -/
theorem advances_attempt (r : Except Failure Nat) (budgetLeft : l.reconnects < l.reconnectMax)
    (notDown : l.state ≠ .disconnect) : Advances (KeptAt b) l (l.attempt r) := by
  intro h
  have counted : 0 ≤ l.reconnects + 1 := by have := h.counted; omega
  refine ⟨⟨⟨counted, budgetLeft, fun down => absurd down notDown⟩, h.runs⟩, rfl, [.spent], rfl, ?_⟩
  simp [BudgetMark.replay, budgetLeft, attempt]

/-- Giving up finds the budget used up, and must find the client without a connection. -/
theorem advances_exhaust (usedUp : l.reconnectMax ≤ l.reconnects) (unlinked : l.conn = none) :
    Advances (KeptAt b) l l.exhaust := by
  intro h
  have atMax : l.reconnects = l.reconnectMax := le_antisymm h.within usedUp
  refine ⟨⟨⟨h.counted, h.within, fun _ => unlinked⟩, h.runs⟩, rfl, [.exhausted], rfl, ?_⟩
  simp [BudgetMark.replay, atMax, exhaust]

end Effects

/-- How the answer to a CONNECT, or the wait for it, left the lifecycle. -/
inductive Answered (l : Lifecycle) : Except Failure Unit → Lifecycle → Prop
  /-- Nothing the lifecycle shows changed. -/
  | unchanged (r : Except Failure Unit) : Answered l r l
  | accepted : Answered l (.ok ()) l.accept
  /-- Refused, with a failure that says so. -/
  | refused (e : Failure) : e.is .connectRefused → Answered l (.error e) l.refuse

theorem Answered.advances {l l' : Lifecycle} {r : Except Failure Unit} (h : Answered l r l')
    (b : Bool) : Advances (KeptAt b) l l' := by
  cases h with
  | unchanged => exact .refl _ _
  | accepted => exact advances_accept b l
  | refused => exact advances_refuse b l

end Lifecycle

/-! ## Actions that advance the lifecycle -/

namespace Sim

/-- Every run of `x` advances the lifecycle keeping `I`. -/
def Advancing (I : Lifecycle → Prop) {α : Type} (x : Sim α) : Prop :=
  ∀ w, Lifecycle.Advances I w.lifecycle (x.run w).2.lifecycle

section Advancing

variable {I : Lifecycle → Prop} {α β : Type}

theorem Advancing.bind {x : Sim α} {f : α → Sim β} (hx : Advancing I x)
    (hf : ∀ a, Advancing I (f a)) : Advancing I (x >>= f) := by
  intro w
  rw [run_bind_snd]
  exact (hx w).trans (hf _ _)

theorem Advancing.pure (a : α) : Advancing I (Pure.pure a : Sim α) :=
  fun w => Lifecycle.Advances.refl I w.lifecycle

theorem Advancing.ite {c : Prop} [Decidable c] {x y : Sim α} (hx : Advancing I x)
    (hy : Advancing I y) : Advancing I (if c then x else y) := by
  split
  · exact hx
  · exact hy

end Advancing

/-! ## Actions with a known effect on the lifecycle -/

/-- Every run of `x` changes the lifecycle by `F`, whatever else it does. -/
def Transforms {α : Type} (x : Sim α) (F : Lifecycle → Lifecycle) : Prop :=
  ∀ w, (x.run w).2.lifecycle = F w.lifecycle

/-- An action that leaves the lifecycle as it was. -/
def KeepsLifecycle {α : Type} (x : Sim α) : Prop := Transforms x id

section Transforms

variable {α β : Type} {F G : Lifecycle → Lifecycle}

theorem Transforms.bind {x : Sim α} {f : α → Sim β} (hx : Transforms x F)
    (hf : ∀ a, Transforms (f a) G) : Transforms (x >>= f) (G ∘ F) := by
  intro w
  rw [run_bind_snd, hf, hx]
  rfl

/-- What follows an action that leaves the lifecycle alone sets the effect. -/
theorem KeepsLifecycle.bind_transforms {x : Sim α} {f : α → Sim β} (hx : KeepsLifecycle x)
    (hf : ∀ a, Transforms (f a) G) : Transforms (x >>= f) G :=
  hx.bind hf

/-- An action with a known effect advances the lifecycle wherever its effect does. -/
theorem Transforms.advancing {I : Lifecycle → Prop} {x : Sim α} (hx : Transforms x F)
    (hF : ∀ l, Lifecycle.Advances I l (F l)) : Advancing I x := by
  intro w
  rw [hx]
  exact hF _

theorem KeepsLifecycle.advancing {I : Lifecycle → Prop} {x : Sim α} (hx : KeepsLifecycle x) :
    Advancing I x :=
  Transforms.advancing hx fun l => Lifecycle.Advances.refl I l

theorem KeepsLifecycle.bind {x : Sim α} {f : α → Sim β} (hx : KeepsLifecycle x)
    (hf : ∀ a, KeepsLifecycle (f a)) : KeepsLifecycle (x >>= f) :=
  Transforms.bind hx hf

theorem KeepsLifecycle.pure (a : α) : KeepsLifecycle (Pure.pure a : Sim α) := fun _ => rfl

theorem KeepsLifecycle.ite {c : Prop} [Decidable c] {x y : Sim α} (hx : KeepsLifecycle x)
    (hy : KeepsLifecycle y) : KeepsLifecycle (if c then x else y) := by
  split
  · exact hx
  · exact hy

/-- A change of the client that moves its lifecycle by `F`. -/
theorem modifyClient_transforms {f : Client → Client}
    (hf : ∀ w : World, ({ w with client := f w.client } : World).lifecycle = F w.lifecycle) :
    Transforms (modifyClient f) F := hf

/-- A change of the client that leaves the lifecycle of every world as it was. Callers prove
`hf` with `fun _ => by rfl` once `f` is known; an auto-param would be evaluated at each use. -/
theorem keepsLifecycle_modifyClient {f : Client → Client}
    (hf : ∀ w : World, ({ w with client := f w.client } : World).lifecycle = w.lifecycle) :
    KeepsLifecycle (modifyClient f) :=
  modifyClient_transforms hf

theorem keepsLifecycle_record {f : Trace → Trace} (hf : ∀ t, (f t).budget = t.budget) :
    KeepsLifecycle (record f) := by
  intro w
  simp [World.lifecycle, hf]

theorem keepsLifecycle_client : KeepsLifecycle client := fun _ => rfl

theorem keepsLifecycle_noteConnack (p : Connack) : KeepsLifecycle (noteConnack p) := fun _ => rfl

theorem keepsLifecycle_now : KeepsLifecycle now := fun _ => rfl

theorem keepsLifecycle_get : KeepsLifecycle (get : Sim World) := fun _ => rfl

theorem keepsLifecycle_modifyNet (f : Network → Network) : KeepsLifecycle (modifyNet f) :=
  fun _ => rfl

theorem keepsLifecycle_sleep (ms : Int) : KeepsLifecycle (sleep ms) := fun _ => rfl

theorem keepsLifecycle_metric (f : Client → MetricStore → MetricStore) :
    KeepsLifecycle (metric f) := fun _ => rfl

theorem keepsLifecycle_log (l : LogLevel) (msg : String) (attrs : Doc.Fields) :
    KeepsLifecycle (log l msg attrs) := by
  intro w
  rw [log_run]
  rfl

theorem keepsLifecycle_emit (e : ClientEvent) : KeepsLifecycle (emit e) := by
  intro w
  unfold emit
  simp only [StateT.run_bind, client_run, pure_bind]
  split <;> rfl

theorem keepsLifecycle_remoteAddr : KeepsLifecycle remoteAddr := fun _ => rfl

theorem keepsLifecycle_closeLink (x : Nat) : KeepsLifecycle (closeLink x) := fun _ => rfl

theorem keepsLifecycle_usable : KeepsLifecycle usable := by
  intro w
  unfold usable
  simp only [StateT.run_bind, client_run, pure_bind]
  split
  · rfl
  · split <;> rfl

theorem keepsLifecycle_writePacket (conn : Nat) (p : Packet) : KeepsLifecycle (writePacket conn p) := by
  intro w
  unfold writePacket
  simp only [StateT.run_bind, client_run, pure_bind]
  cases henc : w.client.codec.encode w.client.sendCap (some p) with
  | error e => rfl
  | ok bytes =>
    simp only
    rcases hres : w.net.write conn bytes with ⟨written, r, net⟩
    cases written <;> cases r <;> simp [hres, packetSent, World.lifecycle]

theorem keepsLifecycle_readPacket (conn : Nat) (timeout : Int) :
    KeepsLifecycle (readPacket conn timeout) := by
  unfold readPacket
  refine (keepsLifecycle_client).bind fun c => (keepsLifecycle_get).bind fun w => ?_
  split
  · refine .ite (.pure _) ((keepsLifecycle_modifyNet _).bind fun _ => ?_)
    split
    · exact (keepsLifecycle_metric _).bind fun _ => .pure _
    · exact .ite (.ite (.pure _) (.ite (.pure _) ((keepsLifecycle_sleep _).bind fun _ => .pure _)))
        (.pure _)
  · exact .pure _

/-- Changing the state changes only the state. -/
theorem setState_transforms (s : ClientState) :
    Transforms (setState s) fun l => { l with state := s } := by
  intro w
  unfold setState
  simp only [StateT.run_bind, client_run, pure_bind]
  split
  · rename_i h
    have hs : w.client.state = s := by simpa using h
    simp [World.lifecycle, hs]
  · simp [log_run, World.lifecycle]

theorem mark_transforms (m : BudgetMark) :
    Transforms (mark m) fun l => { l with budget := l.budget ++ [m] } := fun _ => rfl

/-- Dropping a connection forgets it if it is the current one. -/
theorem dropConn_transforms (target : Option Nat) :
    Transforms (dropConn target) fun l =>
      { l with conn := if (l.conn == target.orElse fun _ => l.conn) then none else l.conn } := by
  intro w
  unfold dropConn
  simp only [StateT.run_bind, client_run, pure_bind]
  show _ = { w.lifecycle with
    conn := if (w.client.conn == target.orElse fun _ => w.client.conn) then none else w.client.conn }
  cases hb : (w.client.conn == target.orElse fun _ => w.client.conn)
  · simp only [Bool.false_eq_true, if_false]
    split <;> rfl
  · simp only [if_true]
    split <;> rfl

theorem Transforms.of_eq {x : Sim α} (hx : Transforms x F) (e : ∀ l, F l = G l) : Transforms x G :=
  fun w => (hx w).trans (e _)

/-- A CONNACK refused gives the client up; one accepted links it and restores the budget. -/
theorem handleConnack_transforms (p : Connack) :
    Transforms (handleConnack p) fun l => if p.returnCode != 0 then l.refuse else l.accept := by
  unfold handleConnack
  refine (keepsLifecycle_noteConnack p).bind_transforms fun _ => ?_
  split
  · rename_i refused
    refine Transforms.of_eq ((setState_transforms _).bind fun _ => (dropConn_transforms _).bind
      fun _ => (keepsLifecycle_log _ _ _).bind fun _ => KeepsLifecycle.pure _) fun l => ?_
    simp [Lifecycle.refuse]
  · refine Transforms.of_eq (Transforms.bind keepsLifecycle_now fun _ =>
      (setState_transforms _).bind fun _ => Transforms.bind keepsLifecycle_client fun _ =>
      (modifyClient_transforms (F := fun l => { l with reconnects := 0 }) fun _ => by rfl).bind
      fun _ => (mark_transforms _).bind fun _ => (keepsLifecycle_remoteAddr).bind fun _ =>
      (keepsLifecycle_log _ _ _).bind fun _ => (keepsLifecycle_emit _).bind fun _ =>
      KeepsLifecycle.pure _) fun l => ?_
    simp [Lifecycle.accept]

/-- What a CONNACK does to the lifecycle, with the result that says so. -/
theorem handleConnack_answered (p : Connack) (w : World) :
    Lifecycle.Answered w.lifecycle ((handleConnack p).run w).1
      ((handleConnack p).run w).2.lifecycle := by
  rw [handleConnack_transforms p w]
  by_cases refused : (p.returnCode != 0) = true
  · have result : ((handleConnack p).run w).1 = .error (.connectRefused p.returnCode) := by
      unfold handleConnack
      simp only [refused, if_true]
      rfl
    simp only [refused, if_true, result]
    exact .refused _ rfl
  · have result : ((handleConnack p).run w).1 = .ok () := by
      unfold handleConnack
      simp only [refused, Bool.false_eq_true, if_false]
      rfl
    simp only [refused, Bool.false_eq_true, if_false, result]
    exact .accepted

end Transforms

/-! ## Answers to a connection attempt -/

/-- Every run of `x` leaves the lifecycle as an answer to a connection attempt does, with a
result that says which answer it was. -/
def Answers (x : Sim (Except Failure Unit)) : Prop :=
  ∀ w, Lifecycle.Answered w.lifecycle (x.run w).1 (x.run w).2.lifecycle

section Answers

variable {α : Type} {x : Sim α}

theorem KeepsLifecycle.answers {x : Sim (Except Failure Unit)} (hx : KeepsLifecycle x) : Answers x := by
  intro w
  rw [hx w]
  exact .unchanged _

theorem Answers.kept_bind (hx : KeepsLifecycle x) {f : α → Sim (Except Failure Unit)}
    (hf : ∀ a, Answers (f a)) : Answers (x >>= f) := by
  intro w
  have h := hf (x.run w).1 (x.run w).2
  rw [hx w] at h
  exact h

theorem handleConnack_answers (p : Connack) : Answers (handleConnack p) :=
  handleConnack_answered p

/-- The wait for a CONNACK changes nothing the lifecycle shows unless a CONNACK comes. -/
theorem awaitConnack_answers (conn : Nat) : Answers (awaitConnack conn) := by
  unfold awaitConnack
  refine Answers.kept_bind keepsLifecycle_client fun _ =>
    Answers.kept_bind (keepsLifecycle_readPacket _ _) fun outcome => ?_
  cases outcome with
  | idle => exact ((keepsLifecycle_sleep _).bind fun _ => .pure _).answers
  | failed e => exact (KeepsLifecycle.pure _).answers
  | packet p =>
    refine Answers.kept_bind keepsLifecycle_now fun _ =>
      Answers.kept_bind (keepsLifecycle_modifyClient fun _ => by rfl) fun _ => ?_
    cases p
    case connack a => exact handleConnack_answers a
    all_goals exact (KeepsLifecycle.pure _).answers

end Answers

theorem pair_bind {α β : Type} (a : α) (w : World) (f : α × World → Id β) :
    bind (m := Id) (a, w) f = f (a, w) := rfl

theorem remoteAddr_run (w : World) : remoteAddr.run w = pure (.str w.client.endpoint.raw, w) := rfl

/-- A connection attempt uses one unit of the budget, and makes the connection it opened the
current one. -/
theorem connectOnce_attempt (w : World) :
    (connectOnce.run w).2.lifecycle = w.lifecycle.attempt (connectOnce.run w).1 := by
  unfold connectOnce mark
  simp only [StateT.run_bind, modifyClient_run, record_run, client_run, pure_bind, StateT.run_get,
    StateT.run_set, log_run, remoteAddr_run]
  cases w.net.dial.1 with
  | none => rfl
  | some x =>
    simp only [StateT.run_bind]
    generalize written : (writePacket x _).run _ = out
    obtain ⟨result, w₃⟩ := out
    -- the CONNECT write keeps the lifecycle of the world the dial left
    have kept := (congrArg (fun o => o.2.lifecycle) written).symm.trans
      (keepsLifecycle_writePacket _ _ _)
    dsimp only at kept
    cases result with
    | error e =>
      show w₃.lifecycle = _
      rw [kept]
      rfl
    | ok u =>
      simp only [pair_bind, StateT.run_bind, client_run, modifyClient_run, pure_bind]
      have adopted : ({ w₃.lifecycle with conn := some x } : Lifecycle) = w.lifecycle.attempt (.ok x) := by
        rw [kept]
        rfl
      -- the connection it replaces, if another, is closed, which touches only the network
      cases w₃.client.conn with
      | none => exact adopted
      | some o =>
        dsimp only
        cases (o != x) <;> exact adopted

end Sim

end Mqtt
