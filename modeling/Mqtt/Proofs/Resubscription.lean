import Mqtt.Proofs.Publishing
import Mqtt.Script.Session
/-! # Restoring subscriptions

A broker that kept no session for a client has forgotten its subscriptions, so the client sends
them again. Start does so once it is connected. An accepted CONNACK without a session that links
again a running client, linked before since it started, makes one more round due, which the client
runs when it settles. A round goes through the table in order and runs, for each entry, an
exchange of its SUBSCRIBE under the next packet identifier; like every exchange it writes the
SUBSCRIBE again when no SUBACK came in time, so one entry may be sent more than once
(`Sim.start_resubscribesTwice`).

* `Sim.RoundExchanges` and `Sim.Round`: what a round over some entries writes, takes and leaves.
  Every round is one (`Sim.resubscribe_round`), put together entry by entry from the exchange of
  one entry (`Sim.subscribeRemote_exchange`).
* `Sim.KeepsRounds`: the actions that leave alone whether the client was linked since it started
  and how many rounds are due. With it: which CONNACK makes a round due
  (`Sim.handleConnack_rounds`), and that a blocking connect of a client not linked since it started
  makes none due (`Sim.connectBlocking_schedulesNoRound`).
* `Sim.resubscribeDue_run`: taking a due round; `Sim.start_round`: Start writes no SUBSCRIBE
  (`Sim.NoSubscribe`) before it connected, and then runs one round.
* Along whole runs the rounds made due are counted off the CONNACKs noted, and everything here is
  put together as `Sim.subscriptions_restored`, in `Mqtt.Proofs.Restoring`.
-/

namespace Mqtt

/-- The SUBSCRIBE that restores an entry of the table, under a packet identifier. -/
def Subscription.Entry.resubscribeUnder (e : Subscription.Entry HandlerRef) (id : UInt16) : Packet :=
  .subscribe ⟨id, [⟨e.filter, e.qos⟩]⟩

@[simp] theorem Subscription.Entry.kind_resubscribeUnder (e : Subscription.Entry HandlerRef)
    (id : UInt16) : (e.resubscribeUnder id).kind = .subscribe :=
  rfl

/-- Handing out `k + 1` identifiers hands out the next one and then `k` from there. -/
theorem PacketIds.take_succ_snd (s : PacketIds) (k : Nat) :
    (s.take (k + 1)).2 = (s.next.2.take k).2 := by
  simp [PacketIds.take]

/-- The packet the broker read from a record of a write, if it read one. -/
def Written.packet? : Written → Option Packet
  | .packet _ p => some p
  | _ => none

/-- Whether a client was linked since it started, and how many rounds of resubscription are due. -/
def Client.rounds (c : Client) : Bool × Nat := (c.linkedOnce, c.resubscribesDue)

/-- The world with one round of resubscription fewer due. -/
def World.takeRound (w : World) : World :=
  { w with client := { w.client with resubscribesDue := w.client.resubscribesDue - 1 } }

/-- What a client is started from: not closed, not given up, and not already running linked. -/
def Startable (c : Client) : Prop :=
  c.closed = false ∧ c.state ≠ .disconnect ∧ (c.running = false ∨ c.state = .idle)

/-- The reader writes no SUBSCRIBE. -/
theorem Packet.FromReader.kind_ne_subscribe {q : Packet} (h : q.FromReader) :
    q.kind ≠ .subscribe := by
  intro same
  rw [Packet.FromReader, same] at h
  exact absurd h (by decide)

/-- The world with the next packet identifier handed out. -/
def World.afterNextId (w : World) : World :=
  { w with client := { w.client with ids := w.client.ids.next.2 } }

namespace Sim

theorem nextId_afterNextId (w : World) : nextId.run w = (w.client.ids.next.1, w.afterNextId) :=
  rfl

/-! ## Rounds -/

/-- The exchanges of a round over `entries`, handing out identifiers from `ids`, for a client
with codec `codec`, send buffer `cap` and retry budget `retries`: for each entry in turn, `k`
copies of its SUBSCRIBE under the next identifier, at most the budget, and how that exchange
ended. `ss` are the SUBSCRIBEs written and `acks` the acknowledgments taken. -/
inductive RoundExchanges (codec : Codec) (cap : Nat) (retries : Int) :
    PacketIds → List (Subscription.Entry HandlerRef) → List Packet → List Ack → Prop
  | nil (ids : PacketIds) : RoundExchanges codec cap retries ids [] [] []
  | cons {ids : PacketIds} {e : Subscription.Entry HandlerRef}
      {es : List (Subscription.Entry HandlerRef)} {ss : List Packet} {acks : List Ack}
      (k : Nat) (r : Except Failure Ack) :
      k ≤ retries.toNat →
      ExchangeEnds .suback ids.next.1 retries retries.toNat k
        (ExchangeCut codec cap (List.replicate k (e.resubscribeUnder ids.next.1))) r →
      RoundExchanges codec cap retries ids.next.2 es ss acks →
      RoundExchanges codec cap retries ids (e :: es)
        (List.replicate k (e.resubscribeUnder ids.next.1) ++ ss) (r.toOption.toList ++ acks)

/-- What a round over `entries` shows from `w` to `out`, having written `ps` and taken `acks`. It
keeps the codec, the settings, the table and whether the client runs, and leaves the identifiers
one past each entry. Among `ps` the SUBSCRIBEs are those of `RoundExchanges`, with only the
reader's answers besides; a client with a connection and a retry budget writes the first entry's
SUBSCRIBE before any other. -/
structure RoundOf (entries : List (Subscription.Entry HandlerRef)) (w out : World)
    (ps : List Packet) (acks : List Ack) : Prop where
  codec : out.client.codec = w.client.codec
  options : out.client.options = w.client.options
  subs : out.client.subs = w.client.subs
  running : out.client.running = w.client.running
  ids : out.client.ids = (w.client.ids.take entries.length).2
  recorded : Recorded w out ps
  took : out.trace.taken = w.trace.taken ++ acks
  readers : ∀ q ∈ ps, q.kind ≠ .subscribe → q.FromReader
  exchanges : RoundExchanges w.client.codec w.client.sendCap w.client.options.publishRetries
    w.client.ids entries (ps.filter (·.kind == .subscribe)) acks
  first : 0 < w.client.options.publishRetries → w.client.conn.isSome →
    ∀ e es, entries = e :: es →
      (ps.filter (·.kind == .subscribe)).head? = some (e.resubscribeUnder w.client.ids.next.1)

/-- A round over `entries` from `w` to `out`. -/
def Round (entries : List (Subscription.Entry HandlerRef)) (w out : World) : Prop :=
  ∃ ps acks, RoundOf entries w out ps acks

/-- A round over no entries does nothing. -/
theorem Round.nil (w : World) : Round [] w w :=
  ⟨[], [], rfl, rfl, rfl, rfl, rfl, .refl w, (List.append_nil _).symm, by simp, .nil _, by simp⟩

/-- What follows a round without writing or taking anything, and keeping the setup, leaves it a
round. -/
theorem Round.then_silent {entries : List (Subscription.Entry HandlerRef)} {w w₂ w₃ : World}
    (h : Round entries w w₂) (kept : KeepsSetup w₂ w₃) (same : w₃.trace.sent = w₂.trace.sent)
    (took : w₃.trace.taken = w₂.trace.taken) : Round entries w w₃ := by
  obtain ⟨ps, acks, round⟩ := h
  exact ⟨ps, acks, kept.codec.trans round.codec, kept.options.trans round.options,
    kept.subs.trans round.subs, kept.running.trans round.running, kept.ids.trans round.ids,
    Recorded.then_silent round.recorded same, took.trans round.took, round.readers, round.exchanges,
    round.first⟩

theorem ExchangeRun.then_silent {expect : PacketKind} {id : UInt16} {attempts : Int} {fuel : Nat}
    {dupOnRetry : Bool} {n : Nat} {p : Packet} {w w₂ w₃ : World} {r : Except Failure Ack}
    (h : ExchangeRun expect id attempts fuel dupOnRetry n p w (r, w₂)) (kept : KeepsSetup w₂ w₃)
    (same : w₃.trace.sent = w₂.trace.sent) (took : w₃.trace.taken = w₂.trace.taken) :
    ExchangeRun expect id attempts fuel dupOnRetry n p w (r, w₃) := by
  obtain ⟨kept₂, took₂, ps, k, hk, recorded, first, copies, readers, ends⟩ := h
  exact ⟨kept₂.trans kept, took.trans took₂, ps, k, hk, Recorded.then_silent recorded same, first,
    copies, readers, ends⟩

/-- Restoring one entry hands out the next identifier and runs the exchange of the entry's
SUBSCRIBE under it, waiting for SUBACK; what follows the exchange only logs. -/
theorem subscribeRemote_exchange (e : Subscription.Entry HandlerRef) (w : World) :
    ∃ r, ExchangeRun .suback w.client.ids.next.1 w.client.options.publishRetries
      w.client.options.publishRetries.toNat false 1 (e.resubscribeUnder w.client.ids.next.1)
      w.afterNextId (r, ((subscribeRemote e).run w).2) := by
  unfold subscribeRemote
  rw [run_bind_eq, nextId_afterNextId]
  dsimp only
  rw [client_bind_run, run_bind_eq]
  have stage := sendAndWait_exchange (.subscribe ⟨w.client.ids.next.1, [⟨e.filter, e.qos⟩]⟩)
    .suback w.afterNextId.client.options.recvTimeout false
    (show PacketKind.subscribe ∉ PacketKind.fromReader by decide) w.afterNextId
  generalize (sendAndWait _ .suback _ false).run _ = s at stage
  obtain ⟨r, w₂⟩ := s
  refine ⟨r, ?_⟩
  cases r with
  | error err => exact stage
  | ok a =>
    dsimp only
    split
    · exact stage
    · -- a refused filter is logged
      obtain ⟨kept, same, took⟩ := silent_run ((writes_log _ _ _).bind fun _ => .pure _) w₂
      exact stage.then_silent kept same took

/-- The exchange of one entry, then a round over the rest, is a round over both. -/
theorem Round.cons {e : Subscription.Entry HandlerRef} {es : List (Subscription.Entry HandlerRef)}
    {w w₂ out : World} {r : Except Failure Ack}
    (exchange : ExchangeRun .suback w.client.ids.next.1 w.client.options.publishRetries
      w.client.options.publishRetries.toNat false 1 (e.resubscribeUnder w.client.ids.next.1)
      w.afterNextId (r, w₂))
    (rest : Round es w₂ out) : Round (e :: es) w out := by
  obtain ⟨kept, took, ps, k, hk, recorded, first, copies, readers, ends⟩ := exchange
  obtain ⟨qs, acks, round⟩ := rest
  rw [Packet.copies_unmarked, Subscription.Entry.kind_resubscribeUnder] at copies
  rw [Packet.copies_unmarked] at ends
  rw [Subscription.Entry.kind_resubscribeUnder] at readers
  have filtered : (ps ++ qs).filter (·.kind == .subscribe) = List.replicate k
      (e.resubscribeUnder w.client.ids.next.1) ++ qs.filter (·.kind == .subscribe) := by
    rw [List.filter_append, copies]
  refine ⟨ps ++ qs, r.toOption.toList ++ acks, round.codec.trans kept.codec,
    round.options.trans kept.options, round.subs.trans kept.subs, round.running.trans kept.running,
    ?_, ?_, ?_, ?_, ?_, ?_⟩
  · rw [round.ids, kept.ids]
    exact (PacketIds.take_succ_snd _ _).symm
  · exact Recorded.after_silent w rfl rfl rfl (recorded.trans kept.codec kept.sendCap round.recorded)
  · rw [round.took, took, List.append_assoc]
    rfl
  · intro q hq other
    rcases List.mem_append.mp hq with hq | hq
    · exact readers q hq other
    · exact round.readers q hq other
  · -- the rest of the round hands out identifiers after this entry's
    have rest := round.exchanges
    rw [kept.codec, kept.sendCap, kept.options, kept.ids] at rest
    rw [filtered]
    exact .cons k r hk ends rest
  · intro retries linked e' es' same
    obtain ⟨rfl, rfl⟩ := List.cons.inj same
    have written : 0 < k := first le_rfl (by omega) linked
    obtain ⟨j, rfl⟩ := Nat.exists_eq_add_of_lt written
    rw [filtered]
    rfl

/-- Restoring the entries in turn is a round over them, whatever failed before. -/
theorem resubscribeEach_round (entries : List (Subscription.Entry HandlerRef)) :
    ∀ (first : Option Failure) (w : World),
      Round entries w ((resubscribeEach entries first).run w).2 := by
  induction entries with
  | nil =>
    intro first w
    cases first <;> exact Round.nil w
  | cons e es ih =>
    intro first w
    rw [resubscribeEach, run_bind_eq]
    obtain ⟨r, exchange⟩ := subscribeRemote_exchange e w
    generalize (subscribeRemote e).run w = s at exchange
    obtain ⟨u, w₂⟩ := s
    cases u with
    | ok u => exact Round.cons exchange (ih first w₂)
    | error err =>
      -- a failed entry is logged, and the round goes on
      dsimp only
      rw [run_bind_eq]
      obtain ⟨kept, same, took⟩ := silent_run (writes_log _ _ _) w₂
      exact Round.cons (exchange.then_silent kept same took) (ih _ _)

/-- Subscribing again to the table is a round over its entries. -/
theorem resubscribe_round (w : World) : Round w.client.subs.entries w (resubscribe.run w).2 := by
  unfold resubscribe
  rw [client_bind_run]
  exact resubscribeEach_round _ none w

/-! ## Which CONNACK makes a round due -/

/-- Every run of `x` leaves the rounds of the client as they were. -/
def KeepsRounds {α : Type} (x : Sim α) : Prop := ∀ w, (x.run w).2.client.rounds = w.client.rounds

section KeepsRounds

variable {α β : Type}

theorem KeepsRounds.bind {x : Sim α} {f : α → Sim β} (hx : KeepsRounds x)
    (hf : ∀ a, KeepsRounds (f a)) : KeepsRounds (x >>= f) := by
  intro w
  rw [run_bind_snd, hf, hx]

theorem KeepsRounds.pure (a : α) : KeepsRounds (Pure.pure a : Sim α) := fun _ => rfl

theorem KeepsRounds.ite {c : Prop} [Decidable c] {x y : Sim α} (hx : KeepsRounds x)
    (hy : KeepsRounds y) : KeepsRounds (if c then x else y) := by
  split
  · exact hx
  · exact hy

/-- A change of the client that leaves its rounds alone. -/
theorem keepsRounds_modifyClient {f : Client → Client} (hf : ∀ c, (f c).rounds = c.rounds) :
    KeepsRounds (modifyClient f) :=
  fun w => hf w.client

theorem keepsRounds_client : KeepsRounds client := fun _ => rfl

theorem keepsRounds_get : KeepsRounds (get : Sim World) := fun _ => rfl

/-- What follows a read of the world needs to keep the rounds only from that world. -/
theorem KeepsRounds.get_bind {f : World → Sim α}
    (hf : ∀ w, ((f w).run w).2.client.rounds = w.client.rounds) : KeepsRounds (get >>= f) :=
  hf

/-- Replacing the network of the world just read leaves the client alone. -/
theorem KeepsRounds.set_net_bind {w : World} {n : Network} {f : Unit → Sim α}
    (hf : KeepsRounds (f ())) :
    ((((set { w with net := n } : Sim Unit)) >>= f).run w).2.client.rounds = w.client.rounds :=
  hf { w with net := n }

theorem keepsRounds_sleep (ms : Int) : KeepsRounds (sleep ms) := fun _ => rfl

theorem keepsRounds_modifyNet (f : Network → Network) : KeepsRounds (modifyNet f) := fun _ => rfl

theorem keepsRounds_record (f : Trace → Trace) : KeepsRounds (record f) := fun _ => rfl

theorem keepsRounds_mark (m : BudgetMark) : KeepsRounds (mark m) := fun _ => rfl

theorem keepsRounds_metric (f : Client → MetricStore → MetricStore) : KeepsRounds (metric f) :=
  fun _ => rfl

theorem keepsRounds_remoteAddr : KeepsRounds remoteAddr := fun _ => rfl

theorem keepsRounds_log (l : LogLevel) (msg : String) (attrs : Doc.Fields) :
    KeepsRounds (log l msg attrs) := by
  intro w
  rw [log_run]
  rfl

theorem keepsRounds_emit (e : ClientEvent) : KeepsRounds (emit e) :=
  keepsRounds_client.bind fun _ => .ite (keepsRounds_record _) (.pure _)

theorem keepsRounds_setState (s : ClientState) : KeepsRounds (setState s) := by
  unfold setState
  exact keepsRounds_client.bind fun _ => .ite (.pure _) ((keepsRounds_log _ _ _).bind fun _ =>
    (keepsRounds_modifyClient fun _ => by rfl).bind fun _ => keepsRounds_metric _)

theorem keepsRounds_dropConn (target : Option Nat) : KeepsRounds (dropConn target) := by
  unfold dropConn
  refine keepsRounds_client.bind fun c => ?_
  refine .ite ((keepsRounds_modifyClient fun _ => by rfl).bind fun _ => ?_) ?_
  -- either way the link named, or else the current one, is closed if there is one
  all_goals
    split
    · exact keepsRounds_modifyNet _
    · exact .pure _

theorem keepsRounds_writePacket (conn : Nat) (p : Packet) : KeepsRounds (writePacket conn p) := by
  intro w
  unfold writePacket
  simp only [StateT.run_bind, client_run, pure_bind]
  cases w.client.codec.encode w.client.sendCap (some p) with
  | error e => rfl
  | ok bytes =>
    simp only
    rcases hres : w.net.write conn bytes with ⟨written, r, net⟩
    cases written <;> cases r <;> simp [hres, packetSent, Client.rounds]

theorem keepsRounds_readPacket (conn : Nat) (timeout : Int) :
    KeepsRounds (readPacket conn timeout) := by
  unfold readPacket
  refine keepsRounds_client.bind fun c => keepsRounds_get.bind fun w => ?_
  split
  · refine .ite (.pure _) ((keepsRounds_modifyNet _).bind fun _ => ?_)
    split
    · exact (keepsRounds_metric _).bind fun _ => .pure _
    · exact .ite (.ite (.pure _) (.ite (.pure _) ((keepsRounds_sleep _).bind fun _ => .pure _)))
        (.pure _)
  · exact .pure _

/-- A connection attempt links nothing: it writes CONNECT and does not wait for the answer. -/
theorem keepsRounds_connectOnce : KeepsRounds connectOnce := by
  unfold connectOnce
  refine (keepsRounds_modifyClient fun _ => by rfl).bind fun _ => (keepsRounds_mark _).bind fun _ =>
    keepsRounds_client.bind fun c => keepsRounds_remoteAddr.bind fun _ => (keepsRounds_log _ _ _).bind
    fun _ => KeepsRounds.get_bind fun w => ?_
  split
  next conn net found =>
    refine KeepsRounds.set_net_bind ((keepsRounds_record _).bind fun _ => ?_)
    split
    · exact .pure _
    · refine (keepsRounds_writePacket _ _).bind fun r => ?_
      split
      · exact (keepsRounds_modifyNet _).bind fun _ => .pure _
      · refine keepsRounds_client.bind fun _ =>
          (keepsRounds_modifyClient fun _ => by rfl).bind fun _ => ?_
        dsimp only
        split
        · exact .ite ((keepsRounds_modifyNet _).bind fun _ => .pure _) (.pure _)
        · exact .pure _

end KeepsRounds

/-- A CONNACK's answer: it accepts exactly when its return code is zero. -/
theorem handleConnack_result (p : Connack) (w : World) :
    ((handleConnack p).run w).1 =
      if p.returnCode = 0 then .ok () else .error (.connectRefused p.returnCode) := by
  unfold handleConnack
  by_cases accepted : p.returnCode = 0
  · simp only [accepted, bne_self_eq_false, Bool.false_eq_true, if_false, if_true]
    rfl
  · simp only [bne_iff_ne, ne_eq, accepted, not_false_eq_true, if_true, if_false]
    rfl

/-- A CONNACK that accepts links the client, and makes a round due exactly when it comes without
a session for a running client linked before since it started; one that refuses changes neither. -/
theorem handleConnack_rounds (p : Connack) (w : World) :
    ((handleConnack p).run w).2.client.rounds = (p.returnCode == 0 || w.client.linkedOnce,
      w.client.resubscribesDue + if p.returnCode = 0 ∧ w.client.linkedOnce = true ∧
        p.sessionPresent = false ∧ w.client.running = true then 1 else 0) := by
  unfold handleConnack
  -- noting the CONNACK in the trace leaves the client as it was
  rw [run_bind_snd, ← show ((noteConnack p).run w).2.client = w.client from rfl]
  generalize ((noteConnack p).run w).2 = w₀
  by_cases accepted : p.returnCode = 0
  · simp only [accepted, bne_self_eq_false, Bool.false_eq_true, if_false]
    rw [run_bind_snd, show now.run w₀ = (w₀.clock, w₀) from rfl]
    dsimp only
    rw [run_bind_snd]
    -- changing the state keeps the rounds and whether the client runs
    have kept := keepsRounds_setState ClientState.linked w₀
    have runs := ((writes_setState (P := fun _ => True) ClientState.linked) w₀).1.running
    generalize (setState ClientState.linked).run w₀ = s at kept runs
    obtain ⟨u, w₁⟩ := s
    dsimp only at kept runs ⊢
    rw [client_bind_run, run_bind_snd, modifyClient_run]
    have tail : KeepsRounds (do
        mark .restored
        log .info "connected"
          [("remote_addr", ← remoteAddr), ("session_present", .bool p.sessionPresent)]
        emit .online
        return (Except.ok () : Except Failure Unit)) :=
      (keepsRounds_mark _).bind fun _ => keepsRounds_remoteAddr.bind fun _ =>
        (keepsRounds_log _ _ _).bind fun _ => (keepsRounds_emit _).bind fun _ => .pure _
    rw [tail]
    simp only [Client.rounds, Prod.mk.injEq] at kept ⊢
    obtain ⟨linked, due⟩ := kept
    simp [linked, due, runs, and_assoc]
  · simp only [bne_iff_ne, ne_eq, accepted, not_false_eq_true, if_true]
    -- a refusal gives the client up, which leaves the rounds alone
    refine (((keepsRounds_setState _).bind fun _ => (keepsRounds_dropConn _).bind fun _ =>
      (keepsRounds_log _ _ _).bind fun _ => .pure _) w₀).trans ?_
    simp [Client.rounds, accepted]

/-! ## A blocking connect of a client not linked before -/

/-- Every run of `x` from a client not linked since it started makes no round due. -/
def SchedulesNoRound {α : Type} (x : Sim α) : Prop :=
  ∀ w, w.client.linkedOnce = false → (x.run w).2.client.resubscribesDue = w.client.resubscribesDue

section SchedulesNoRound

variable {α β : Type}

theorem KeepsRounds.schedulesNoRound {x : Sim α} (hx : KeepsRounds x) : SchedulesNoRound x :=
  fun w _ => congrArg Prod.snd (hx w)

theorem SchedulesNoRound.kept_bind {x : Sim α} {f : α → Sim β} (hx : KeepsRounds x)
    (hf : ∀ a, SchedulesNoRound (f a)) : SchedulesNoRound (x >>= f) := by
  intro w fresh
  have kept := hx w
  simp only [Client.rounds, Prod.mk.injEq] at kept
  rw [run_bind_snd, hf _ _ (kept.1.trans fresh), kept.2]

theorem SchedulesNoRound.ite {c : Prop} [Decidable c] {x y : Sim α} (hx : SchedulesNoRound x)
    (hy : SchedulesNoRound y) : SchedulesNoRound (if c then x else y) := by
  split
  · exact hx
  · exact hy

/-- Waiting for a CONNACK, a client not linked since it started makes no round due, and stays not
linked unless a CONNACK accepted it. -/
theorem awaitConnack_unlinked (conn : Nat) (w : World) (fresh : w.client.linkedOnce = false) :
    ((awaitConnack conn).run w).2.client.resubscribesDue = w.client.resubscribesDue ∧
      (((awaitConnack conn).run w).1 ≠ .ok () →
        ((awaitConnack conn).run w).2.client.linkedOnce = false) := by
  unfold awaitConnack
  rw [client_bind_run, run_bind_eq]
  have kept := keepsRounds_readPacket conn w.client.options.connectTimeout w
  generalize (readPacket conn _).run w = s at kept
  obtain ⟨outcome, w₁⟩ := s
  simp only [Client.rounds, Prod.mk.injEq] at kept
  obtain ⟨linked, due⟩ := kept
  cases outcome with
  | idle => exact ⟨due, fun _ => linked.trans fresh⟩
  | failed e => exact ⟨due, fun _ => linked.trans fresh⟩
  | packet p =>
    cases p
    case connack a =>
      -- a CONNACK for a client not linked before makes no round due, and links it if it accepts
      have rounds := handleConnack_rounds a { w₁ with
        client := { w₁.client with keepAlive := w₁.client.keepAlive.received w₁.clock } }
      have result := handleConnack_result a { w₁ with
        client := { w₁.client with keepAlive := w₁.client.keepAlive.received w₁.clock } }
      simp only [Client.rounds, Prod.mk.injEq] at rounds
      refine ⟨by simpa [linked.trans fresh, due] using rounds.2, fun refused => ?_⟩
      have nonzero : a.returnCode ≠ 0 := fun accepted => refused (by simpa [accepted] using result)
      exact rounds.1.trans (by simp [linked.trans fresh, nonzero])
    all_goals exact ⟨due, fun _ => linked.trans fresh⟩

/-- A wait for a CONNACK and what follows it make no round due for a client not linked since it
started, if what follows an accepting CONNACK leaves the rounds alone. -/
theorem SchedulesNoRound.awaitConnack_bind (conn : Nat) {f : Except Failure Unit → Sim α}
    (accepted : KeepsRounds (f (.ok ()))) (refused : ∀ e, SchedulesNoRound (f (.error e))) :
    SchedulesNoRound (awaitConnack conn >>= f) := by
  intro w fresh
  obtain ⟨due, unlinked⟩ := awaitConnack_unlinked conn w fresh
  rw [run_bind_snd]
  generalize (awaitConnack conn).run w = s at due unlinked
  obtain ⟨r, w₁⟩ := s
  cases r with
  | ok u => exact (congrArg Prod.snd (accepted w₁)).trans due
  | error e => exact (refused e w₁ (unlinked (by simp))).trans due

theorem connectBlockingLoop_schedulesNoRound (lastErr : Option Failure) (fuel : Nat) :
    SchedulesNoRound (connectBlockingLoop lastErr fuel) := by
  induction fuel generalizing lastErr with
  | zero => exact (KeepsRounds.pure _).schedulesNoRound
  | succ fuel ih =>
    unfold connectBlockingLoop
    refine SchedulesNoRound.kept_bind keepsRounds_client fun c => .ite ?_ ?_
    · exact ((keepsRounds_setState _).bind fun _ => (keepsRounds_mark _).bind fun _ =>
        (keepsRounds_log _ _ _).bind fun _ => .pure _).schedulesNoRound
    · refine SchedulesNoRound.kept_bind keepsRounds_connectOnce fun r => ?_
      extract_lets retry
      -- a failed attempt logs, waits the reconnect delay and tries again, still not linked
      have retrying : ∀ err, SchedulesNoRound (retry err) := fun err =>
        SchedulesNoRound.kept_bind keepsRounds_remoteAddr fun _ =>
          SchedulesNoRound.kept_bind (keepsRounds_log _ _ _) fun _ =>
          SchedulesNoRound.kept_bind keepsRounds_client fun _ =>
          SchedulesNoRound.kept_bind (keepsRounds_sleep _) fun _ => ih _
      split
      · exact SchedulesNoRound.kept_bind (.pure _) retrying
      · refine SchedulesNoRound.awaitConnack_bind _ (by exact .pure _) fun e => ?_
        dsimp only
        exact .ite (KeepsRounds.pure _).schedulesNoRound
          (SchedulesNoRound.kept_bind (keepsRounds_dropConn _) fun _ =>
            .ite (KeepsRounds.pure _).schedulesNoRound (SchedulesNoRound.kept_bind (.pure _) retrying))

/-- A blocking connect of a client not linked since it started makes no round due: the CONNACK
that links it is answered by the round its caller runs. -/
theorem connectBlocking_schedulesNoRound : SchedulesNoRound connectBlocking :=
  SchedulesNoRound.kept_bind keepsRounds_client fun _ => connectBlockingLoop_schedulesNoRound _ _

end SchedulesNoRound

/-! ## The round due -/

theorem takeRound_run (w : World) :
    (modifyClient fun c => { c with resubscribesDue := c.resubscribesDue - 1 }).run w =
      ((), w.takeRound) :=
  rfl

/-- With no round due, taking one does nothing. Otherwise it takes one: a client still running
runs a round over its table, one that stopped lets the round go. -/
theorem resubscribeDue_run (w : World) :
    (w.client.resubscribesDue = 0 → resubscribeDue.run w = (false, w)) ∧
      (0 < w.client.resubscribesDue → (resubscribeDue.run w).1 = true ∧
        (w.client.running = true →
          Round w.client.subs.entries w.takeRound (resubscribeDue.run w).2) ∧
        (w.client.running = false → (resubscribeDue.run w).2 = w.takeRound)) := by
  unfold resubscribeDue
  rw [client_bind_run]
  refine ⟨fun none => by simp only [none, if_true]; rfl, fun due => ?_⟩
  rw [if_neg (by omega), run_bind_eq, takeRound_run]
  dsimp only
  cases running : w.client.running
  · exact ⟨rfl, fun h => absurd h (by simp), fun _ => rfl⟩
  · simp only [if_true]
    rw [run_bind_eq]
    have round := resubscribe_round w.takeRound
    generalize resubscribe.run w.takeRound = s at round
    obtain ⟨r, w₂⟩ := s
    cases r with
    | ok u => exact ⟨rfl, fun _ => round, fun h => absurd h (by simp)⟩
    | error e =>
      -- a failed round is only logged
      dsimp only
      rw [run_bind_eq]
      obtain ⟨kept, same, took⟩ := silent_run (writes_log _ _ _) w₂
      exact ⟨rfl, fun _ => round.then_silent kept same took, fun h => absurd h (by simp)⟩

/-! ## Start's own round -/

/-- `w'` follows `w` having written no SUBSCRIBE, with the codec, the settings, the table and the
identifiers as they were. -/
structure NoSubscribe (w w' : World) : Prop where
  codec : w'.client.codec = w.client.codec
  options : w'.client.options = w.client.options
  subs : w'.client.subs = w.client.subs
  ids : w'.client.ids = w.client.ids
  writes : ∃ ps, Recorded w w' ps ∧ ∀ q ∈ ps, q.kind ≠ .subscribe

theorem NoSubscribe.refl (w : World) : NoSubscribe w w :=
  ⟨rfl, rfl, rfl, rfl, [], .refl w, by simp⟩

theorem NoSubscribe.trans {w₁ w₂ w₃ : World} (h₁ : NoSubscribe w₁ w₂)
    (h₂ : NoSubscribe w₂ w₃) : NoSubscribe w₁ w₃ := by
  obtain ⟨ps, rec₁, hps⟩ := h₁.writes
  obtain ⟨qs, rec₂, hqs⟩ := h₂.writes
  refine ⟨h₂.codec.trans h₁.codec, h₂.options.trans h₁.options, h₂.subs.trans h₁.subs,
    h₂.ids.trans h₁.ids, ps ++ qs,
    rec₁.trans h₁.codec (by simp [Client.sendCap, h₁.options]) rec₂, ?_⟩
  intro q hq
  rcases List.mem_append.mp hq with hq | hq
  · exact hps q hq
  · exact hqs q hq

/-- A change that writes nothing and keeps the codec, the settings, the table and the
identifiers. -/
theorem NoSubscribe.of_silent {w w' : World} (same : w'.trace.sent = w.trace.sent)
    (codec : w'.client.codec = w.client.codec) (options : w'.client.options = w.client.options)
    (subs : w'.client.subs = w.client.subs) (ids : w'.client.ids = w.client.ids) : NoSubscribe w w' :=
  ⟨codec, options, subs, ids, [], .of_sent same, by simp⟩

section Quiet

variable {α β : Type} {P : Packet → Prop}

/-- An action that writes no SUBSCRIBE keeps whether the client runs. -/
theorem NoSubscribe.of_writes {x : Sim α} (hx : Writes P x)
    (quiet : ∀ q, P q → q.kind ≠ .subscribe) (w : World) :
    NoSubscribe w (x.run w).2 ∧ (x.run w).2.client.running = w.client.running := by
  obtain ⟨kept, -, ps, hps, recorded⟩ := hx w
  exact ⟨⟨kept.codec, kept.options, kept.subs, kept.ids, ps, recorded,
    fun q hq => quiet q (hps q hq)⟩, kept.running⟩

/-- A run of an action that writes no SUBSCRIBE, with the world it leads to. -/
theorem NoSubscribe.run_eq {x : Sim α} (hx : Writes P x) (quiet : ∀ q, P q → q.kind ≠ .subscribe)
    (w : World) :
    ∃ a w', x.run w = (a, w') ∧ NoSubscribe w w' ∧ w'.client.running = w.client.running :=
  ⟨_, _, rfl, NoSubscribe.of_writes hx quiet w⟩

end Quiet

theorem writes_sendDisconnect : Writes (·.kind ≠ .subscribe) sendDisconnect := by
  unfold sendDisconnect writeAndPump
  refine writes_client.bind fun c => ?_
  split
  · refine (((writes_writePacket _ _).mono fun q h => by subst h; decide).bind fun r =>
      (writes_pump.mono fun _ h => h.kind_ne_subscribe).bind fun _ => .pure _).bind fun r => ?_
    split
    · exact writes_log _ _ _
    · exact .pure _
  · exact .pure _

theorem modifyClient_pair (f : Client → Client) (w : World) :
    (modifyClient f).run w = ((), { w with client := f w.client }) :=
  rfl

/-- Stopping writes no SUBSCRIBE and leaves the client not running. -/
theorem stopRun_run (w : World) :
    NoSubscribe w (stopRun.run w).2 ∧ (stopRun.run w).2.client.running = false := by
  unfold stopRun
  rw [client_bind_run, run_bind_eq, modifyClient_pair]
  dsimp only
  -- DISCONNECT is written and the connection dropped
  obtain ⟨_, w₂, step₂, quiet₂, -⟩ := NoSubscribe.run_eq writes_sendDisconnect (fun _ h => h)
    { w with client := { w.client with readerAlive := false } }
  rw [run_bind_eq, step₂]
  obtain ⟨_, w₃, step₃, quiet₃, -⟩ :=
    NoSubscribe.run_eq (writes_dropConn none) (fun _ h => h) w₂
  rw [run_bind_eq, step₃, run_bind_eq, modifyClient_pair]
  dsimp only
  -- then the client no longer runs, and the rest keeps that
  obtain ⟨_, w₄, step₄, quiet₄, runs₄⟩ := NoSubscribe.run_eq (writes_setState .idle)
    (fun _ h => h) { w₃ with client := { w₃.client with running := false, readerOn := none } }
  rw [run_bind_eq, step₄, run_bind_eq, modifyClient_pair]
  dsimp only
  have stopped : NoSubscribe w w₄ :=
    (NoSubscribe.of_silent (by rfl) (by rfl) (by rfl) (by rfl) (by rfl)).trans
      (quiet₂.trans (quiet₃.trans
        ((NoSubscribe.of_silent (by rfl) (by rfl) (by rfl) (by rfl) (by rfl)).trans quiet₄)))
  exact ⟨(stopped.trans (NoSubscribe.of_silent (by rfl) (by rfl) (by rfl) (by rfl) (by rfl))).trans
      (NoSubscribe.of_writes (.ite (writes_log _ _ _) (.pure _)) (fun _ h => h) _).1,
    (NoSubscribe.of_writes (.ite (writes_log _ _ _) (.pure _)) (fun _ h => h) _).2.trans runs₄⟩

/-- Started from a startable client, Start writes no SUBSCRIBE up to some world `w₁`; if it leaves
the client running, it connected, and a round over the table follows from `w₁`; otherwise nothing
follows. -/
theorem start_startable (w : World) (startable : Startable w.client) :
    ∃ w₁, NoSubscribe w w₁ ∧
      ((start.run w).2.client.running = true → Round w.client.subs.entries w₁ (start.run w).2) ∧
      ((start.run w).2.client.running = false → w₁ = (start.run w).2) := by
  obtain ⟨open_, alive, idle⟩ := startable
  unfold start
  rw [client_bind_run, if_neg (by simp [open_]), if_neg (by simp [alive])]
  rw [if_neg (by rcases idle with h | h <;> simp [h])]
  extract_lets connecting
  -- from a client that does not run, whether stopped first or not, Start connects and then runs
  -- a round over the table, or fails and leaves it not running
  have connects : ∀ u w₀, w₀.client.running = false → NoSubscribe w w₀ →
      ∃ w₁, NoSubscribe w w₁ ∧
        (((connecting u).run w₀).2.client.running = true →
          Round w.client.subs.entries w₁ ((connecting u).run w₀).2) ∧
        (((connecting u).run w₀).2.client.running = false →
          w₁ = ((connecting u).run w₀).2) := by
    intro u w₀ stopped quiet₀
    simp only [connecting]
    rw [run_bind_eq, modifyClient_pair]
    dsimp only
    obtain ⟨_, w₂, step₂, quiet₂, runs₂⟩ := NoSubscribe.run_eq (writes_mark .restored)
      (fun _ h => h) { w₀ with client := { w₀.client with reconnects := 0, linkedOnce := false } }
    rw [run_bind_eq, step₂]
    obtain ⟨_, w₃, step₃, quiet₃, runs₃⟩ :=
      NoSubscribe.run_eq (writes_setState .linking) (fun _ h => h) w₂
    rw [run_bind_eq, step₃]
    obtain ⟨r, w₄, step₄, quiet₄, runs₄⟩ := NoSubscribe.run_eq writes_connectBlocking
      (fun _ h => h.kind_ne_subscribe) w₃
    rw [run_bind_eq, step₄]
    have quiet : NoSubscribe w w₄ :=
      quiet₀.trans ((NoSubscribe.of_silent (by rfl) (by rfl) (by rfl) (by rfl) (by rfl)).trans
        (quiet₂.trans (quiet₃.trans quiet₄)))
    have down : w₄.client.running = false := runs₄.trans (runs₃.trans (runs₂.trans stopped))
    cases r with
    | error e =>
      -- a failed connect drops the connection and leaves the client not running
      dsimp only
      obtain ⟨_, w₅, step₅, quiet₅, runs₅⟩ :=
        NoSubscribe.run_eq (writes_dropConn none) (fun _ h => h) w₄
      rw [run_bind_eq, step₅, client_bind_run]
      split
      · obtain ⟨_, w₆, step₆, quiet₆, runs₆⟩ :=
          NoSubscribe.run_eq (writes_setState .idle) (fun _ h => h) w₅
        rw [run_bind_eq, step₆]
        exact ⟨w₆, quiet.trans (quiet₅.trans quiet₆),
          fun h => absurd (h.symm.trans (runs₆.trans (runs₅.trans down))) (by simp), fun _ => rfl⟩
      · exact ⟨w₅, quiet.trans quiet₅,
          fun h => absurd (h.symm.trans (runs₅.trans down)) (by simp), fun _ => rfl⟩
    | ok u =>
      -- connected: the client runs, the reader runs, and the round follows
      dsimp only
      rw [run_bind_eq, modifyClient_pair]
      dsimp only
      obtain ⟨_, w₆, step₆, quiet₆, runs₆⟩ :=
        NoSubscribe.run_eq writes_remoteAddr (fun _ h => h) { w₄ with
          client := { w₄.client with running := true, readerAlive := true, readerOn := none } }
      rw [run_bind_eq, step₆]
      obtain ⟨_, w₇, step₇, quiet₇, runs₇⟩ :=
        NoSubscribe.run_eq (writes_log _ _ _) (fun _ h => h) w₆
      rw [run_bind_eq, step₇]
      obtain ⟨_, w₈, step₈, quiet₈, runs₈⟩ := NoSubscribe.run_eq writes_pump
        (fun _ h => h.kind_ne_subscribe) w₇
      rw [run_bind_eq, step₈]
      have before : NoSubscribe w w₈ :=
        quiet.trans ((NoSubscribe.of_silent (by rfl) (by rfl) (by rfl) (by rfl) (by rfl)).trans
          (quiet₆.trans (quiet₇.trans quiet₈)))
      have round := resubscribe_round w₈
      rw [before.subs] at round
      refine ⟨w₈, before, fun _ => round, fun h => ?_⟩
      obtain ⟨ps, acks, of⟩ := round
      exact absurd (h.symm.trans (of.running.trans (runs₈.trans (runs₇.trans runs₆)))) (by simp)
  split
  · rename_i running
    rw [run_bind_eq]
    obtain ⟨quiet, stopped⟩ := stopRun_run w
    exact connects () _ stopped quiet
  · rename_i running
    exact connects () w (by simpa using running) (.refl w)

/-- Start leaves a client that is closed, gave up or already runs linked as it was. -/
theorem start_unstartable (w : World) (refused : ¬ Startable w.client) : (start.run w).2 = w := by
  unfold start
  rw [client_bind_run]
  by_cases open_ : w.client.closed = false
  · rw [if_neg (by simp [open_])]
    by_cases gaveUp : w.client.state = .disconnect
    · rw [if_pos (by simp [gaveUp])]
      rfl
    · have linked : w.client.running = true ∧ w.client.state ≠ .idle := by
        simpa [Startable, open_, gaveUp] using refused
      rw [if_neg (by simp [gaveUp]), if_pos (by simp [linked])]
      rfl
  · rw [if_pos (by simpa using open_)]
    rfl

/-- Start, from any world, writes no SUBSCRIBE up to some world `w₁`; when it starts the client a
round over the table follows, and nothing otherwise. -/
theorem start_round (w : World) :
    ∃ w₁, NoSubscribe w w₁ ∧
      (Startable w.client ∧ (start.run w).2.client.running = true →
        Round w.client.subs.entries w₁ (start.run w).2) ∧
      (¬ (Startable w.client ∧ (start.run w).2.client.running = true) →
        w₁ = (start.run w).2) := by
  by_cases startable : Startable w.client
  · obtain ⟨w₁, quiet, started, failed⟩ := start_startable w startable
    refine ⟨w₁, quiet, fun h => started h.2, fun h => failed ?_⟩
    cases running : (start.run w).2.client.running
    · rfl
    · exact absurd ⟨startable, running⟩ h
  · exact ⟨w, .refl w, fun h => absurd h.1 startable,
      fun _ => (start_unstartable w startable).symm⟩

end Sim

end Mqtt
