import Mqtt.Proofs.Operations
/-! # Runs of a session

A session builds a client from a broker URI and options, then takes steps. `World.Reaches` collects
the worlds such a run reaches, with the ledger of the reconnect budget its steps leave, each step's
marks after those of the steps before it. A client just built is idle, unlinked and has spent none
of a positive budget; every step keeps the lifecycle steady and replays its own marks from the
counter before it to the counter after it (`Sim.perform_steady`). So over every run the whole
ledger replays from an unspent budget, and `reconnect_budget` reads that replay back as counts of
connection attempts.
-/

namespace Mqtt

/-! ## A client just built -/

theorem ClientOptions.resolve_reconnectMax_pos (opts : List ClientOption) :
    0 < (ClientOptions.resolve opts).reconnectMax :=
  ClientOptions.positiveOr_pos (by decide)

/-- A client just created is idle, holds no connection, is not running and has spent nothing of
its reconnect budget, under the options it was given. -/
theorem Client.create_fresh {ep : Endpoint} {o : ClientOptions} {recv : 0 < o.recvBufferSize}
    {c : Client} (h : Client.create ep o recv = .ok c) :
    c.state = .idle ∧ c.conn = none ∧ c.running = false ∧ c.reconnects = 0 ∧ c.options = o := by
  unfold Client.create at h
  extract_lets logger c₀ finish at h
  -- A will is checked before the client is made; a bad one fails the creation.
  cases hw : o.will with
  | none =>
    simp only [hw, bind, Except.bind, pure, Except.pure, finish, Except.ok.injEq] at h
    subst h
    exact ⟨rfl, rfl, rfl, rfl, rfl⟩
  | some will =>
    simp only [hw] at h
    split at h
    · simp [throw, throwThe, MonadExceptOf.throw, bind, Except.bind] at h
    · split at h
      · simp [throw, throwThe, MonadExceptOf.throw, bind, Except.bind] at h
      · simp only [bind, Except.bind, pure, Except.pure, finish, Except.ok.injEq] at h
        subst h
        exact ⟨rfl, rfl, rfl, rfl, rfl⟩

/-- A client just built is fresh, with a positive reconnect budget. -/
theorem Client.build_fresh {uri : String} {opts : List ClientOption} {env : Environment}
    {c : Client} {d : DialerChoice} (h : Client.build uri opts env = .ok (c, d)) :
    c.state = .idle ∧ c.conn = none ∧ c.running = false ∧ c.reconnects = 0 ∧
      0 < c.options.reconnectMax := by
  unfold Client.build at h
  cases hp : Endpoint.parse uri with
  | error e => simp [hp, bind, Except.bind] at h
  | ok ep =>
    cases hs : DialerChoice.select ep (ClientOptions.resolve opts) env with
    | error e => simp [hp, hs, bind, Except.bind] at h
    | ok d' =>
      cases hc : Client.create ep (ClientOptions.resolve opts)
          (ClientOptions.resolve_recvBufferSize_pos opts) with
      | error e => simp [hp, hs, hc, bind, Except.bind] at h
      | ok c' =>
        simp only [hp, hs, hc, bind, Except.bind, pure, Except.pure, Except.ok.injEq,
          Prod.mk.injEq] at h
        obtain ⟨rfl, rfl⟩ := h
        obtain ⟨idle, unlinked, stopped, unspent, options⟩ := Client.create_fresh hc
        exact ⟨idle, unlinked, stopped, unspent, options ▸ ClientOptions.resolve_reconnectMax_pos opts⟩

/-! ## Runs -/

/-- The worlds a session reaches, with the ledger of the reconnect budget its steps left: a client
just built, with any network, time and trace, then any steps. -/
inductive World.Reaches : World → List BudgetMark → Prop
  | built {uri : String} {opts : List ClientOption} {env : Environment} {c : Client}
      {d : DialerChoice} (net : Network) (clock : Int) (trace : Trace)
      (h : Client.build uri opts env = .ok (c, d)) : World.Reaches ⟨c, net, clock, trace⟩ []
  | step {w : World} {ledger : List BudgetMark} (withLogs : Bool) (s : Step)
      (reaches : World.Reaches w ledger) :
      World.Reaches ((Sim.perform withLogs s).run w).2
        (ledger ++ ((Sim.perform withLogs s).run w).2.trace.budget)

namespace World.Reaches

/-- Over every run the lifecycle is steady, and the ledger of the whole run replays from an
unspent budget to the counter now. -/
theorem steady {w : World} {ledger : List BudgetMark} (reaches : w.Reaches ledger) :
    w.lifecycle.Steady ∧
      BudgetMark.replay w.client.options.reconnectMax 0 ledger = some w.client.reconnects := by
  induction reaches with
  | @built uri opts env c d net clock trace built =>
    obtain ⟨idle, unlinked, stopped, unspent, positive⟩ := Client.build_fresh built
    refine ⟨⟨⟨?_, ?_, fun _ => unlinked⟩, fun _ => ⟨.inl idle, unlinked⟩⟩, ?_⟩
    · show 0 ≤ c.reconnects
      omega
    · show c.reconnects ≤ c.options.reconnectMax
      omega
    · rw [unspent]
      rfl
  | step withLogs s reaches ih =>
    obtain ⟨steady, replays⟩ := ih
    obtain ⟨steady', max, replays'⟩ := Sim.perform_steady withLogs s _ steady
    refine ⟨steady', ?_⟩
    rw [max, BudgetMark.replay_append, replays, Option.bind_some]
    exact replays'

end World.Reaches

/-- The reconnect budget over every run of a session. The counter stays within `0..reconnectMax`
and counts the connection attempts since the last restore, a start or an accepted CONNACK; at
every point of the run at most `reconnectMax` attempts follow the last restore; and the client
gives up for lack of budget only after exactly `reconnectMax` attempts with no restore between. -/
theorem reconnect_budget {w : World} {ledger : List BudgetMark} (reaches : w.Reaches ledger) :
    0 ≤ w.client.reconnects ∧ w.client.reconnects ≤ w.client.options.reconnectMax ∧
      w.client.reconnects = BudgetMark.attemptsSince 0 ledger ∧
      (∀ before after, ledger = before ++ after →
        (BudgetMark.attemptsSince 0 before : Int) ≤ w.client.options.reconnectMax) ∧
      (∀ before after, ledger = before ++ .exhausted :: after →
        (BudgetMark.attemptsSince 0 before : Int) = w.client.options.reconnectMax) := by
  obtain ⟨steady, replays⟩ := reaches.steady
  have fromZero : BudgetMark.replay w.client.options.reconnectMax ((0 : Nat) : Int) ledger =
      some w.client.reconnects := replays
  have budget : (0 : Int) ≤ w.client.options.reconnectMax := steady.counted.trans steady.within
  refine ⟨steady.counted, steady.within, BudgetMark.replay_attempts fromZero, ?_, ?_⟩
  · rintro before after rfl
    obtain ⟨r, first, -⟩ := BudgetMark.replay_split fromZero
    rw [← BudgetMark.replay_attempts first]
    exact (BudgetMark.replay_within first le_rfl budget).2
  · rintro before after rfl
    obtain ⟨r, first, rest⟩ := BudgetMark.replay_split fromZero
    rw [← BudgetMark.replay_attempts first]
    exact BudgetMark.replay_exhausted rest

/-- A client with a budget of two started against a broker that refuses both dials: the step
restores the budget, spends it on two attempts and gives up, and the budget holds over that run. -/
theorem reconnect_budget_refusedDials :
    match Client.build "tcp://broker:1883" [.reconnect 2 1000] [] with
    | .ok (c, _) =>
      let w := ((Sim.perform false .start).run ⟨c, { broker := { dials := [false, false] } }, 0, {}⟩).2
      w.trace.budget = [.restored, .spent, .spent, .exhausted] ∧ w.client.state = .disconnect ∧
        World.Reaches w ([] ++ w.trace.budget) ∧
        0 ≤ w.client.reconnects ∧ w.client.reconnects ≤ w.client.options.reconnectMax ∧
        w.client.reconnects = BudgetMark.attemptsSince 0 ([] ++ w.trace.budget) ∧
        (∀ before after, [] ++ w.trace.budget = before ++ after →
          (BudgetMark.attemptsSince 0 before : Int) ≤ w.client.options.reconnectMax) ∧
        (∀ before after, [] ++ w.trace.budget = before ++ .exhausted :: after →
          (BudgetMark.attemptsSince 0 before : Int) = w.client.options.reconnectMax)
    | .error _ => False := by
  -- the run itself, evaluated once on the client the options build
  have ran : (Client.build "tcp://broker:1883" [.reconnect 2 1000] []).toOption.map (fun cd =>
      let w := ((Sim.perform false .start).run
        ⟨cd.1, { broker := { dials := [false, false] } }, 0, {}⟩).2
      (w.trace.budget, w.client.state)) = some ([.restored, .spent, .spent, .exhausted], .disconnect) := by
    decide +kernel
  split
  · next c d built =>
    rw [built] at ran
    obtain ⟨ledger, state⟩ := Prod.mk.inj (Option.some.inj ran)
    have run := World.Reaches.step false .start (.built { broker := { dials := [false, false] } } 0 {} built)
    exact ⟨ledger, state, run, reconnect_budget run⟩
  · next e failed =>
    rw [failed] at ran
    cases ran

end Mqtt
