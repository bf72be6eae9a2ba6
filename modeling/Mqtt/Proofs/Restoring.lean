import Mqtt.Proofs.Relinking
/-! # Restoring subscriptions along every run

The actions of `Mqtt.Proofs.Relinking` count every CONNACK they note. Two things are left for a
whole step: Start, whose own blocking connect may note one CONNACK before the client runs (its own
round answers it), and Stop, which drops what the client owes only when it stops running; and the
rounds taken when the step settles.

**Main results:**

- `World.Reaches.linked`: over every run a client that runs has been linked since it started, so
  the CONNACKs of the reader's and the timer's reconnects all find it so.
- `Sim.perform_owing`: in a step the rounds owed after it, with those it took, are those owed
  before and one for each CONNACK noted that asks for one, save at most the one of Start's own
  connect; settling took them all, each in its turn after the reader ran (`Sim.Settles`), unless it
  took a thousand.
- `Sim.subscriptions_restored`: what a CONNACK makes due, what each round and Start's own round
  write, and the count over every step of every run, put together.
-/

namespace Mqtt

/-- How many of the CONNACKs a step notes may go uncounted: the one Start's own connect may
note. -/
def Step.uncounted : Step → Nat
  | .start => 1
  | _ => 0

namespace Sim

/-! ## Start's own connect -/

/-- What holds of every run of `f` from a world showing the view that `x` keeps holds after
`x >>= f`. -/
theorem Keeps.then {β α α' : Type} {v : World → β} {R : α' × World → Prop} {x : Sim α}
    {f : α → Sim α'} (hx : Keeps v x) {w : World} (rest : ∀ a w₁, v w₁ = v w → R ((f a).run w₁)) :
    R ((x >>= f).run w) :=
  rest _ _ (hx w)

/-- Waiting for a CONNACK notes at most the one it reads. Without one it fails; with one it
succeeds only if the CONNACK accepts, which links the client, and fails as refused otherwise. -/
theorem awaitConnack_noted (conn : Nat) (w : World) :
    (((awaitConnack conn).run w).2.trace.connacks = w.trace.connacks ∧
        ((awaitConnack conn).run w).1 ≠ .ok ()) ∨
      ∃ a, ((awaitConnack conn).run w).2.trace.connacks = w.trace.connacks ++ [a] ∧
        (((awaitConnack conn).run w).1 = .ok () →
          ((awaitConnack conn).run w).2.client.linkedOnce = true) ∧
        ∀ e, ((awaitConnack conn).run w).1 = .error e → e.is .connectRefused := by
  unfold awaitConnack
  rw [client_bind_run, run_bind_eq]
  have kept := keepsRoundsView_readPacket conn w.client.options.connectTimeout w
  generalize (readPacket conn _).run w = s at kept
  obtain ⟨outcome, w₁⟩ := s
  have noted := World.connacks_of_roundsView kept
  cases outcome with
  | idle => exact .inl ⟨noted, by intro h; cases h⟩
  | failed e => exact .inl ⟨noted, by intro h; cases h⟩
  | packet p =>
    cases p
    case connack a =>
      -- the CONNACK read is handled, from the world whose keep-alive noted it
      let w₂ : World := { w₁ with
        client := { w₁.client with keepAlive := w₁.client.keepAlive.received w₁.clock } }
      have rounds := handleConnack_rounds a w₂
      have result := handleConnack_result a w₂
      simp only [Client.rounds, Prod.mk.injEq] at rounds
      refine .inr ⟨a, (handleConnack_noted a w₂).trans (by rw [← noted]), fun accepted => ?_,
        fun e refused => ?_⟩
      · have zero : a.returnCode = 0 := by
          by_contra nonzero
          rw [show ((handleConnack a).run w₂).1 = _ from accepted, if_neg nonzero] at result
          cases result
        exact rounds.1.trans (by simp [zero])
      · have nonzero : a.returnCode ≠ 0 := by
          intro zero
          rw [show ((handleConnack a).run w₂).1 = _ from refused, if_pos zero] at result
          cases result
        rw [show ((handleConnack a).run w₂).1 = _ from refused, if_neg nonzero] at result
        cases result
        rfl
    all_goals exact .inl ⟨noted, by intro h; cases h⟩

/-- What a blocking connect shows: it noted at most one CONNACK, and it succeeded only once a
CONNACK linked the client. -/
def ConnectNoted (w : World) (out : Except Failure Unit × World) : Prop :=
  (∃ pre, out.2.trace.connacks = w.trace.connacks ++ pre ∧ pre.length ≤ 1) ∧
    (out.1 = .ok () → out.2.client.linkedOnce = true)

/-- A connect that fails having noted nothing shows that. -/
theorem ConnectNoted.failed {w : World} {out : Except Failure Unit × World}
    (noted : out.2.trace.connacks = w.trace.connacks) (failed : out.1 ≠ .ok ()) : ConnectNoted w out :=
  ⟨⟨[], by simp [noted], by simp⟩, fun h => absurd h failed⟩

/-- A connect noted after a stretch that noted nothing shows the same. -/
theorem ConnectNoted.after {w w₁ : World} {out : Except Failure Unit × World}
    (same : w₁.trace.connacks = w.trace.connacks) (h : ConnectNoted w₁ out) : ConnectNoted w out := by
  obtain ⟨⟨pre, noted, short⟩, linked⟩ := h
  exact ⟨⟨pre, by rw [noted, same], short⟩, linked⟩

/-- The connect loop: each attempt that reads a CONNACK ends the loop, so it notes at most one, and
it succeeds only on one that accepts. -/
theorem connectBlockingLoop_noted (lastErr : Option Failure) (fuel : Nat) (w : World) :
    ConnectNoted w ((connectBlockingLoop lastErr fuel).run w) := by
  induction fuel generalizing lastErr w with
  | zero => exact .failed rfl (by intro h; cases h)
  | succ fuel ih =>
    unfold connectBlockingLoop
    rw [client_bind_run]
    split
    · -- the budget is used up: the client gives up
      exact .failed (World.connacks_of_roundsView (((keepsRoundsView_setState _).bind fun _ =>
        (keepsRoundsView_mark _).bind fun _ => (keepsRoundsView_log _ _ _).bind fun _ =>
        Keeps.pure _) w)) (by intro h; cases h)
    · extract_lets retry
      -- a failed attempt logs, waits the reconnect delay and tries again
      have retrying : ∀ err w₁, w₁.trace.connacks = w.trace.connacks →
          ConnectNoted w ((retry err).run w₁) := fun err w₁ same₁ =>
        Keeps.then keepsRoundsView_remoteAddr fun _ w₂ same₂ =>
          Keeps.then (keepsRoundsView_log _ _ _) fun _ w₃ same₃ =>
          Keeps.then keepsRoundsView_client fun _ w₄ same₄ =>
          Keeps.then (keepsRoundsView_sleep _) fun _ w₅ same₅ =>
          (ih _ w₅).after (World.connacks_of_roundsView (same₅.trans (same₄.trans (same₃.trans same₂)))
            |>.trans same₁)
      refine Keeps.then keepsRoundsView_connectOnce fun r w₁ same₁ => ?_
      have kept₁ : w₁.trace.connacks = w.trace.connacks := World.connacks_of_roundsView same₁
      cases r with
      | error e => exact retrying _ w₁ kept₁
      | ok x =>
        dsimp only
        rw [run_bind_eq]
        rcases awaitConnack_noted x w₁ with ⟨none, failed⟩ | ⟨a, one, linked, refused⟩
        · -- no CONNACK came: the attempt failed otherwise
          generalize (awaitConnack x).run w₁ = out at none failed
          obtain ⟨r₂, w₂⟩ := out
          cases r₂ with
          | ok u => exact absurd rfl failed
          | error e =>
            dsimp only
            split
            · exact .failed (none.trans kept₁) (by intro h; cases h)
            · exact Keeps.then (keepsRoundsView_dropConn _) fun _ w₃ same₃ => by
                have kept₃ : w₃.trace.connacks = w.trace.connacks :=
                  (World.connacks_of_roundsView same₃).trans (none.trans kept₁)
                split
                · exact .failed kept₃ (by intro h; cases h)
                · exact retrying _ w₃ kept₃
        · -- a CONNACK came and ends the loop: accepted, or refused
          generalize (awaitConnack x).run w₁ = out at one linked refused
          obtain ⟨r₂, w₂⟩ := out
          have noted : ∃ pre, w₂.trace.connacks = w.trace.connacks ++ pre ∧ pre.length ≤ 1 :=
            ⟨[a], by rw [one, kept₁], by simp⟩
          cases r₂ with
          | ok u => exact ⟨noted, fun _ => linked rfl⟩
          | error e =>
            dsimp only
            rw [if_pos (refused e rfl)]
            exact ⟨noted, fun h => by cases h⟩

theorem connectBlocking_noted (w : World) : ConnectNoted w (connectBlocking.run w) := by
  unfold connectBlocking
  rw [client_bind_run]
  exact connectBlockingLoop_noted _ _ w

/-! ## Rounds owed over a step -/

/-- `w'` follows `w` with the client linked if it runs, having taken `taken` rounds: the rounds owed
grew by those that the CONNACKs noted in between ask for, all of them but at most `skip`, less
those taken. -/
structure Owing (skip taken : Nat) (w w' : World) : Prop where
  linked : w'.client.Linked
  owes : ∃ noted cs, w'.trace.connacks = w.trace.connacks ++ noted ∧ cs.Sublist noted ∧
    noted.length ≤ cs.length + skip ∧
    w'.client.resubscribesDue + taken = w.client.resubscribesDue + Connack.roundsAsked cs

theorem Relinked.owing {taken : Nat} {w w' : World} (h : Relinked taken w w') :
    Owing 0 taken w w' := by
  obtain ⟨-, linked, cs, noted, -, due⟩ := h
  exact ⟨linked, cs, cs, noted, .refl cs, by simp, due⟩

namespace Owing

theorem trans {s₁ s₂ t₁ t₂ : Nat} {w₁ w₂ w₃ : World} (h₁ : Owing s₁ t₁ w₁ w₂)
    (h₂ : Owing s₂ t₂ w₂ w₃) : Owing (s₁ + s₂) (t₁ + t₂) w₁ w₃ := by
  obtain ⟨-, n₁, cs₁, noted₁, sub₁, len₁, due₁⟩ := h₁
  obtain ⟨linked₂, n₂, cs₂, noted₂, sub₂, len₂, due₂⟩ := h₂
  refine ⟨linked₂, n₁ ++ n₂, cs₁ ++ cs₂, by rw [noted₂, noted₁, List.append_assoc],
    sub₁.append sub₂, ?_, ?_⟩
  · simp only [List.length_append]
    omega
  · rw [Connack.roundsAsked_append]
    omega

theorem weaken {s s' t : Nat} {w w' : World} (h : Owing s t w w') (le : s ≤ s') :
    Owing s' t w w' := by
  obtain ⟨linked, noted, cs, hn, sub, len, due⟩ := h
  exact ⟨linked, noted, cs, hn, sub, by omega, due⟩

end Owing

/-- Every run of `x` from a world whose client is linked if it runs is `Owing skip taken`. -/
def Owes (skip taken : Nat) {α : Type} (x : Sim α) : Prop :=
  ∀ w, w.client.Linked → Owing skip taken w (x.run w).2

section Owes

variable {α β : Type} {s t : Nat}

/-- After an action that counts every CONNACK and takes nothing, what follows sets the account. -/
theorem Owes.bind {x : Sim α} {f : α → Sim β} (hx : Owes 0 0 x) (hf : ∀ a, Owes s t (f a)) :
    Owes s t (x >>= f) := by
  intro w linked
  have first := hx w linked
  rw [run_bind_snd]
  simpa using first.trans (hf _ _ first.linked)

theorem Owes.ite {c : Prop} [Decidable c] {x y : Sim α} (hx : Owes s t x) (hy : Owes s t y) :
    Owes s t (if c then x else y) := by
  split
  · exact hx
  · exact hy

theorem Owes.map {x : Sim α} (f : α → β) (hx : Owes s t x) : Owes s t (f <$> x) :=
  fun w => hx w

theorem Owes.weaken {s' : Nat} {x : Sim α} (hx : Owes s t x) (le : s ≤ s') : Owes s' t x :=
  fun w linked => (hx w linked).weaken le

theorem Relinks.owes {x : Sim α} (hx : Relinks (fun _ => True) x) : Owes 0 0 x :=
  fun w linked => (hx w trivial linked).owing

theorem Keeps.owes {x : Sim α} (hx : Keeps World.roundsView x) : Owes 0 0 x :=
  (Keeps.relinks hx).owes

theorem Owes.pure (a : α) : Owes 0 0 (Pure.pure a : Sim α) := (Relinks.pure a).owes

/-- A change of the client that stops it and keeps the rounds owed: a client that does not run
needs no link. -/
theorem owes_stopClient {f : Client → Client} (stops : ∀ c, (f c).running = false)
    (due : ∀ c, (f c).resubscribesDue = c.resubscribesDue) : Owes 0 0 (modifyClient f) :=
  fun w _ => ⟨Client.linked_of_stopped (stops w.client), [], [], by simp, .refl _, by simp,
    by simp [due]⟩

end Owes

/-- Stopping says goodbye, counting what the reader handles meanwhile, and then stops the
client. -/
theorem owes_stopRun : Owes 0 0 stopRun := by
  unfold stopRun
  exact keepsRoundsView_client.owes.bind fun _ =>
    (keepsRoundsView_modifyClient fun _ => by rfl).owes.bind fun _ =>
    relinks_sendDisconnect.owes.bind fun _ => (keepsRoundsView_dropConn none).owes.bind fun _ =>
    (owes_stopClient (fun _ => by rfl) (fun _ => by rfl)).bind fun _ =>
    (keepsRoundsView_setState _).owes.bind fun _ =>
    (keepsRoundsView_modifyClient fun _ => by rfl).owes.bind fun _ =>
    (Keeps.ite (keepsRoundsView_log _ _ _) (.pure _)).owes

theorem owes_stop : Owes 0 0 stop :=
  keepsRoundsView_client.owes.bind fun _ =>
    .ite (.pure _) (owes_stopRun.bind fun _ => .pure _)

theorem owes_delete : Owes 0 0 delete :=
  keepsRoundsView_client.owes.bind fun _ => .ite (.pure _)
    ((keepsRoundsView_modifyClient fun _ => by rfl).owes.bind fun _ => owes_stopRun.bind fun _ =>
      (keepsRoundsView_modifyClient fun _ => by rfl).owes.bind fun _ => .pure _)

/-- Start counts every CONNACK but one: its blocking connect runs while the client does not run,
notes at most one CONNACK and makes no round due, and the client runs only once that CONNACK
linked it. -/
theorem owes_start : Owes 1 0 start := by
  intro w linked
  unfold start
  rw [client_bind_run]
  split
  · exact (Relinked.refl linked).owing.weaken (by omega)
  split
  · exact (Relinked.refl linked).owing.weaken (by omega)
  split
  · exact (Relinked.refl linked).owing.weaken (by omega)
  extract_lets connect
  have connecting : ∀ w₀, w₀.client.running = false → Owing 1 0 w₀ ((connect ()).run w₀).2 := by
    intro w₀ stopped
    simp only [connect]
    rw [run_bind_eq, modifyClient_pair]
    dsimp only
    -- the budget is restored and the client marked not linked, still not running
    refine Keeps.then (R := fun out => Owing 1 0 w₀ out.2) (keepsRoundsView_mark _)
      fun _ w₂ same₂ => Keeps.then (R := fun out => Owing 1 0 w₀ out.2)
      (keepsRoundsView_setState _) fun _ w₃ same₃ => ?_
    obtain ⟨runs₂, once₂, due₂, noted₂⟩ := World.roundsView_eq_iff.mp same₂
    obtain ⟨runs₃, once₃, due₃, noted₃⟩ := World.roundsView_eq_iff.mp same₃
    rw [run_bind_eq]
    have connected := connectBlocking_noted w₃
    have noRound := connectBlocking_schedulesNoRound w₃ (once₃.trans once₂)
    have runs₄ := (writes_connectBlocking w₃).1.running
    generalize connectBlocking.run w₃ = out at connected noRound runs₄
    obtain ⟨r, w₄⟩ := out
    obtain ⟨⟨pre, noted₄, short⟩, linked₄⟩ := connected
    have down : w₄.client.running = false := runs₄.trans (runs₃.trans (runs₂.trans stopped))
    have due₄ : w₄.client.resubscribesDue = w₀.client.resubscribesDue :=
      noRound.trans (due₃.trans due₂)
    have noted : w₄.trace.connacks = w₀.trace.connacks ++ pre := by
      rw [noted₄, noted₃, noted₂]
    cases r with
    | error e =>
      -- a failed connect leaves the client not running
      dsimp only
      have failed : ∀ w₇ : World, w₇.roundsView = w₄.roundsView → Owing 1 0 w₀ w₇ := by
        intro w₇ same
        obtain ⟨runs₇, -, due₇, noted₇⟩ := World.roundsView_eq_iff.mp same
        exact ⟨Client.linked_of_stopped (runs₇.trans down), pre, [], by rw [noted₇, noted],
          List.nil_sublist _, by simpa using short, by simp [due₇, due₄]⟩
      refine Keeps.then (R := fun out => Owing 1 0 w₀ out.2) (keepsRoundsView_dropConn none)
        fun _ w₅ same₅ => Keeps.then (R := fun out => Owing 1 0 w₀ out.2) keepsRoundsView_client
        fun c w₆ same₆ => ?_
      split
      · exact Keeps.then (R := fun out => Owing 1 0 w₀ out.2) (keepsRoundsView_setState _)
          fun _ w₇ same₇ => failed w₇ (same₇.trans (same₆.trans same₅))
      · exact failed w₆ (same₆.trans same₅)
    | ok u =>
      -- connected: the client runs, linked by the CONNACK, and the rest counts
      dsimp only
      rw [run_bind_eq, modifyClient_pair]
      dsimp only
      generalize started : ({ w₄ with
        client := { w₄.client with running := true, readerAlive := true, readerOn := none } } :
          World) = w₅
      have linked₅ : w₅.client.Linked := fun _ => by rw [← started]; exact linked₄ rfl
      refine Relinks.then (R := Owing 1 0 w₀) ?_ linked₅ fun w₆ rest => ?_
      · exact keepsRoundsView_remoteAddr.relinks.bind fun _ => (keepsRoundsView_log _ _ _).relinks.bind
          fun _ => relinks_pump.bind fun _ => relinks_resubscribe
      obtain ⟨-, linked₆, cs, noted₆, -, due₆⟩ := rest
      refine ⟨linked₆, pre ++ cs, cs, ?_, List.sublist_append_right pre cs, ?_, ?_⟩
      · rw [noted₆, ← started]
        simp [noted]
      · simp only [List.length_append]
        omega
      · rw [due₆, ← started]
        simp [due₄]
  split
  · -- a running client is idle here, and is stopped first
    rw [run_bind_snd]
    simpa using (owes_stopRun w linked).trans (connecting _ (stopRun_run w).2)
  · rename_i notRunning
    exact connecting w (by simpa using notRunning)

/-! ## Settling -/

/-- Taking one round of those owed. -/
theorem takeRound_relinked {w : World} (linked : w.client.Linked)
    (due : 0 < w.client.resubscribesDue) : Relinked 1 w w.takeRound :=
  ⟨rfl, linked, [], by simp [World.takeRound], fun _ => rfl, by simp [World.takeRound]; omega⟩

/-- Taking a round when one is owed takes one, and says so; a client that runs runs a round over
its table, which counts the CONNACKs the reader handles meanwhile. -/
theorem resubscribeDue_relinked (w : World) (linked : w.client.Linked)
    (due : 0 < w.client.resubscribesDue) :
    (resubscribeDue.run w).1 = true ∧ Relinked 1 w (resubscribeDue.run w).2 := by
  refine ⟨((resubscribeDue_run w).2 due).1, ?_⟩
  unfold resubscribeDue
  rw [client_bind_run, if_neg (by omega), run_bind_snd, takeRound_run]
  dsimp only
  refine Relinks.then (R := Relinked 1 w) ?_ (takeRound_relinked linked due).linked
    fun _ rest => (takeRound_relinked linked due).trans rest
  split
  · refine relinks_resubscribe.bind fun r => ?_
    split
    · exact (keepsRoundsView_log _ _ _).relinks.bind fun _ => .pure _
    · exact .pure _
  · exact .pure _

/-- One round taken from `w`, reaching `w'`: a client that runs runs a round over its table, one
that stopped lets the round go. -/
def TakesRound (w w' : World) : Prop :=
  (w.client.running = true → Round w.client.subs.entries w.takeRound w') ∧
    (w.client.running = false → w' = w.takeRound)

/-- Settling from `w` reached `w'` taking `n` rounds, the reader running before each: it ends when
nothing is owed once the reader ran, or when it took all the rounds it may. -/
inductive Settles : Nat → World → World → Prop
  | spent (w : World) : Settles 0 w w
  | idle {w : World} (none : (pump.run w).2.client.resubscribesDue = 0) :
      Settles 0 w (pump.run w).2
  | round {n : Nat} {w w₁ w₂ : World} (due : 0 < (pump.run w).2.client.resubscribesDue)
      (took : TakesRound (pump.run w).2 w₁) (rest : Settles n w₁ w₂) : Settles (n + 1) w w₂

/-- Settling takes the rounds owed one at a time, letting the reader run before each, until none
is owed or it took `n`. -/
theorem settleFor_relinked (n : Nat) (w : World) (linked : w.client.Linked) :
    ∃ taken ≤ n, Relinked taken w ((settleFor n).run w).2 ∧
      Settles taken w ((settleFor n).run w).2 ∧
      (((settleFor n).run w).2.client.resubscribesDue = 0 ∨ taken = n) := by
  induction n generalizing w with
  | zero => exact ⟨0, le_rfl, .refl linked, .spent w, .inr rfl⟩
  | succ n ih =>
    unfold settleFor
    rw [run_bind_eq]
    have pumped := relinks_pump (S := fun _ => True) w trivial linked
    generalize ran : pump.run w = out at pumped
    obtain ⟨u, w₁⟩ := out
    have pumpedTo : (pump.run w).2 = w₁ := by rw [ran]
    dsimp only
    rw [run_bind_eq]
    by_cases none : w₁.client.resubscribesDue = 0
    · -- nothing owed: settling ends here
      rw [(resubscribeDue_run w₁).1 none]
      have idle : Settles 0 w w₁ := pumpedTo ▸ .idle (by rw [pumpedTo]; exact none)
      exact ⟨0, by omega, pumped, idle, .inl none⟩
    · -- one round is taken, and settling goes on
      have due : 0 < w₁.client.resubscribesDue := by omega
      obtain ⟨took, taken⟩ := resubscribeDue_relinked w₁ pumped.linked due
      have round : TakesRound w₁ (resubscribeDue.run w₁).2 := ((resubscribeDue_run w₁).2 due).2
      generalize resubscribeDue.run w₁ = out at took taken round
      obtain ⟨b, w₂⟩ := out
      dsimp only at took taken round ⊢
      subst took
      rw [if_pos rfl]
      obtain ⟨k, hk, rest, settles, drained⟩ := ih w₂ taken.linked
      have whole := pumped.trans (taken.trans rest)
      rw [Nat.zero_add, Nat.add_comm] at whole
      refine ⟨k + 1, by omega, whole, .round (by rw [pumpedTo]; exact due) ?_ settles, by omega⟩
      rw [pumpedTo]
      exact round

/-- A step's own work: Start counts all the CONNACKs it notes but at most one, every other step all
of them. -/
theorem owes_runStep (s : Step) : Owes s.uncounted 0 (runStep s) := by
  cases s with
  | start => exact owes_start.map _
  | stop => exact owes_stop.map _
  | delete => exact owes_delete.map _
  | disconnect => exact (relinks_disconnect.map _).owes
  | stopReader =>
    exact (keepsRoundsView_stopReader.bind fun _ => (keepsRoundsView_sleep _).bind fun _ =>
      .pure _).owes
  | publish m t => exact ((relinks_publish m t).map _).owes
  | publishAsync m => exact ((relinks_publishAsync m).map _).owes
  | subscribe f q h => exact ((relinks_subscribe f q _).map _).owes
  | unsubscribe f => exact ((relinks_unsubscribe f).map _).owes
  | subscriptions => exact (keepsRoundsView_client.bind fun _ => .pure _).owes
  | setKeepAlive ms => exact ((keepsRoundsView_setKeepAliveInterval ms).relinks.map _).owes
  | control cmd arg =>
    refine Relinks.owes ((relinks_control cmd arg).bind fun _ => ?_)
    dsimp only
    exact .ite ((keepsRoundsView_sleep _).relinks.bind fun _ => .pure _) (.pure _)
  | tick advance =>
    exact (keepsRoundsView_now.relinks.bind fun _ => (relinks_tick _).bind fun _ => .pure _).owes
  | broker c => exact ((keepsRoundsView_modifyNet _).bind fun _ => .pure _).owes
  | inject b => exact (keepsRoundsView_onNewestLink _).owes
  | brokerClose => exact (keepsRoundsView_onNewestLink _).owes

/-- A step of a session, from a world whose client is linked if it runs. The step starts its
trace afresh; the rounds owed after it, with those it took, are those owed before and those that
the CONNACKs it noted ask for, all of them but, in Start, at most one; and settling took every
round owed, each in its turn, unless it took a thousand. -/
theorem perform_owing (withLogs : Bool) (s : Step) (w : World) (linked : w.client.Linked) :
    ∃ taken ≤ 1000, Owing s.uncounted taken { w with trace := {} }
        ((perform withLogs s).run w).2 ∧
      (∃ w₁, Settles taken w₁ ((perform withLogs s).run w).2) ∧
      (((perform withLogs s).run w).2.client.resubscribesDue = 0 ∨ taken = 1000) := by
  unfold perform
  rw [run_bind_snd, run_bind_snd]
  generalize cleared : ((modify fun w => { w with trace := {} } : Sim Unit).run _).2 = w₁
  have same : w₁.client = w.client ∧ w₁.trace = {} := by
    rw [← cleared]
    exact ⟨rfl, rfl⟩
  rw [run_bind_snd]
  have stepped := owes_runStep s w₁ (by rw [same.1]; exact linked)
  generalize (runStep s).run w₁ = out at stepped
  obtain ⟨r, w₂⟩ := out
  rw [run_bind_snd, show settle = settleFor 1000 from rfl]
  obtain ⟨taken, bounded, settled, settles, drained⟩ := settleFor_relinked 1000 w₂ stepped.linked
  generalize (settleFor 1000).run w₂ = out at settled settles drained
  obtain ⟨u, w₃⟩ := out
  refine ⟨taken, bounded, show Owing _ _ _ w₃ from ?_, ⟨w₂, settles⟩, drained⟩
  have whole := stepped.trans settled.owing
  simp only [Nat.add_zero, Nat.zero_add] at whole
  obtain ⟨linked₃, noted, cs, hn, sub, len, due⟩ := whole
  exact ⟨linked₃, noted, cs, by rw [hn, same.2], sub, len, by rw [due, same.1]⟩

end Sim

/-- Over every run, a client that runs has been linked since it started. -/
theorem World.Reaches.linked {w : World} {ledger : List BudgetMark} (reaches : w.Reaches ledger) :
    w.client.Linked := by
  induction reaches with
  | built net clock trace built => exact Client.linked_of_stopped (Client.build_fresh built).2.2.1
  | step withLogs s reaches ih =>
    obtain ⟨taken, -, owing, -⟩ := Sim.perform_owing withLogs s _ ih
    exact owing.linked

namespace Sim

/-! ## Restoring subscriptions along every run -/

/-- Restoring subscriptions after a broker lost the session, over every run. A CONNACK makes one
round of resubscription due exactly when it accepts without a session and finds the client running
and linked since it started; a refused one, or one with a session, makes none. Along every run a
client that runs has been linked since it started, so the CONNACKs the reader handles, on the
connection of the timer's reconnect or in its own reconnect after a FIN, all find it so: in every
step the rounds owed after it, with those it took, are those owed before and one for each CONNACK
the step noted that accepts without a session, all of them but the one Start's own blocking connect
may note; and settling took every round owed unless it took a thousand, each in its turn after the
reader ran (`Settles`). Taking a round runs, while the client runs, a round over the table: for
each entry in table order one exchange of its SUBSCRIBE under the next packet identifier, which
writes it again when no SUBACK came in time, up to the retry budget (`RoundExchanges`); a round
taken after the client stopped is let go. Start writes no SUBSCRIBE until it connected, and then
runs one round of its own. -/
theorem subscriptions_restored :
    (∀ (p : Connack) (w : World), ((handleConnack p).run w).2.client.resubscribesDue =
        w.client.resubscribesDue + (if p.returnCode = 0 ∧ w.client.linkedOnce = true ∧
          p.sessionPresent = false ∧ w.client.running = true then 1 else 0) ∧
      ((handleConnack p).run w).2.client.linkedOnce = (p.returnCode == 0 || w.client.linkedOnce)) ∧
    (∀ (w : World) (ledger : List BudgetMark), w.Reaches ledger →
      (w.client.running = true → w.client.linkedOnce = true) ∧
      ∀ (withLogs : Bool) (s : Step), ∃ (cs : List Connack) (taken : Nat),
        cs.Sublist ((perform withLogs s).run w).2.trace.connacks ∧
        ((perform withLogs s).run w).2.trace.connacks.length ≤ cs.length + s.uncounted ∧
        ((perform withLogs s).run w).2.client.resubscribesDue + taken =
          w.client.resubscribesDue + Connack.roundsAsked cs ∧
        (∃ w₁, Settles taken w₁ ((perform withLogs s).run w).2) ∧
        taken ≤ 1000 ∧ (((perform withLogs s).run w).2.client.resubscribesDue = 0 ∨ taken = 1000)) ∧
    (∀ w : World, (w.client.resubscribesDue = 0 → resubscribeDue.run w = (false, w)) ∧
      (0 < w.client.resubscribesDue → (resubscribeDue.run w).1 = true ∧
        (w.client.running = true →
          Round w.client.subs.entries w.takeRound (resubscribeDue.run w).2) ∧
        (w.client.running = false → (resubscribeDue.run w).2 = w.takeRound))) ∧
    (∀ w : World, ∃ w₁, NoSubscribe w w₁ ∧
      (Startable w.client ∧ (start.run w).2.client.running = true →
        Round w.client.subs.entries w₁ (start.run w).2) ∧
      (¬ (Startable w.client ∧ (start.run w).2.client.running = true) →
        w₁ = (start.run w).2)) := by
  refine ⟨fun p w => ?_, fun w ledger reaches => ⟨reaches.linked, fun withLogs s => ?_⟩,
    resubscribeDue_run, start_round⟩
  · have rounds := handleConnack_rounds p w
    simp only [Client.rounds, Prod.mk.injEq] at rounds
    exact ⟨rounds.2, rounds.1⟩
  · -- the step starts its trace afresh, so what it noted is the whole trace it leaves
    obtain ⟨taken, bounded, ⟨-, noted, cs, whole, sub, len, due⟩, settles, drained⟩ :=
      perform_owing withLogs s w reaches.linked
    rw [List.nil_append] at whole
    exact ⟨cs, taken, whole ▸ sub, whole ▸ len, due, settles, bounded, drained⟩

/-- A client with the one subscription `x` that the broker cut off after Start. Where the broker
answers the reader's reconnect after the FIN, that step notes one CONNACK without a session and
takes its round, writing the entry's SUBSCRIBE under the next identifier; where the broker lets
that CONNACK go unanswered, the step notes none and the timer's reconnect a minute later does the
same. -/
theorem subscriptions_restored_afterFinOrTimer :
    match Client.build "tcp://broker:1883" [] [] with
    | .ok (c, _) =>
      let x : Step := .control 2 (.subscription (Bytes.ofString "x") 0)
      let started (net : Network) : World :=
        ((perform false .start).run ((perform false x).run ⟨c, net, 0, {}⟩).2).2
      let fin := started { broker := {} }
      let lost := ((perform false .brokerClose).run
        (started { broker := { connacks := [.answer 0 false, .silent, .answer 0 false] } })).2
      let restored (w : World) (s : Step) : Prop :=
        let w' := ((perform false s).run w).2
        (∃ ledger, w.Reaches ledger) ∧ w.client.running = true ∧
        w'.trace.connacks = [{ sessionPresent := false, returnCode := 0 }] ∧
        (w'.trace.sent.filterMap Written.packet?).filter (·.kind == .subscribe) =
          [.subscribe ⟨2, [⟨Bytes.ofString "x", 0⟩]⟩] ∧
        ∃ (cs : List Connack) (taken : Nat), cs.Sublist w'.trace.connacks ∧
          w'.trace.connacks.length ≤ cs.length + s.uncounted ∧
          w'.client.resubscribesDue + taken = w.client.resubscribesDue + Connack.roundsAsked cs ∧
          (∃ w₁, Settles taken w₁ w') ∧ taken ≤ 1000 ∧ (w'.client.resubscribesDue = 0 ∨ taken = 1000)
      restored fin .brokerClose ∧ lost.trace.connacks = [] ∧ restored lost (.tick 60000)
    | .error _ => False := by
  -- both runs, evaluated once on the client the options build
  have ran : (Client.build "tcp://broker:1883" [] []).toOption.map (fun cd =>
      let x : Step := .control 2 (.subscription (Bytes.ofString "x") 0)
      let started (net : Network) : World :=
        ((perform false .start).run ((perform false x).run ⟨cd.1, net, 0, {}⟩).2).2
      let fin := started { broker := {} }
      let lost := ((perform false .brokerClose).run
        (started { broker := { connacks := [.answer 0 false, .silent, .answer 0 false] } })).2
      let seen (w : World) (s : Step) :=
        let w' := ((perform false s).run w).2
        (w.client.running, w'.trace.connacks,
          (w'.trace.sent.filterMap Written.packet?).filter (·.kind == .subscribe))
      (seen fin .brokerClose, lost.trace.connacks, seen lost (.tick 60000))) =
      some ((true, [{ sessionPresent := false, returnCode := 0 }],
          [.subscribe ⟨2, [⟨Bytes.ofString "x", 0⟩]⟩]), [],
        (true, [{ sessionPresent := false, returnCode := 0 }],
          [.subscribe ⟨2, [⟨Bytes.ofString "x", 0⟩]⟩])) := by
    decide +kernel
  split
  · next c d built =>
    rw [built] at ran
    have seen := Option.some.inj ran
    simp only [Prod.mk.injEq] at seen
    obtain ⟨⟨finRuns, finNoted, finSent⟩, lostNoted, lostRuns, timerNoted, timerSent⟩ := seen
    have fin := World.Reaches.step false .start
      (.step false (.control 2 (.subscription (Bytes.ofString "x") 0)) (.built { broker := {} } 0 {} built))
    have lost := World.Reaches.step false .brokerClose (.step false .start
      (.step false (.control 2 (.subscription (Bytes.ofString "x") 0))
        (.built { broker := { connacks := [.answer 0 false, .silent, .answer 0 false] } } 0 {} built)))
    dsimp only
    exact ⟨⟨⟨_, fin⟩, finRuns, finNoted, finSent,
        (subscriptions_restored.2.1 _ _ fin).2 false .brokerClose⟩,
      lostNoted, ⟨⟨_, lost⟩, lostRuns, timerNoted, timerSent,
        (subscriptions_restored.2.1 _ _ lost).2 false (.tick 60000)⟩⟩
  · next e failed =>
    rw [failed] at ran
    cases ran

/-- A client with the one subscription `x`, whose broker lets the first SUBACK go unanswered:
Start writes the entry's SUBSCRIBE twice, under the same identifier. -/
theorem start_resubscribesTwice :
    ((Session.world { steps := [], broker := { drops := [(.suback, 1)] } }).toOption.map fun w =>
      let w₁ := ((control 2 (.subscription (Bytes.ofString "x") 0)).run w).2
      (w₁.client.subs.entries.length,
        ((start.run w₁).2.trace.sent.filterMap Written.packet?).filter (·.kind == .subscribe))) =
      some (1, [.subscribe ⟨1, [⟨Bytes.ofString "x", 0⟩]⟩,
        .subscribe ⟨1, [⟨Bytes.ofString "x", 0⟩]⟩]) := by
  decide +kernel

end Sim

end Mqtt
