import Mqtt.Proofs.Runs
import Mqtt.Proofs.Resubscription
/-! # Rounds of resubscription along a run

Every CONNACK a client handles is noted in the trace, so the rounds of resubscription a run
makes due can be read off it: a CONNACK asks for a round when it accepts and the broker kept no
session (`Connack.roundsAsked`). The one fact that makes the count exact is that a client that
runs has been linked since it started (`Client.Linked`): Start clears the mark only while the client
does not run, and sets the client running only once a CONNACK linked it. The reader reads only for
a running client, so every CONNACK it handles, on the connection the timer's reconnect made or in
its own reconnect after a FIN, finds the client running and linked, and asks for exactly the
rounds the CONNACK itself asks for.

* `Sim.Keeps`: the actions that leave a view of the world alone; most actions leave alone what the
  rounds owed depend on (`World.roundsView`).
* `Sim.Relinked` and `Sim.Relinks`: every action that neither starts nor stops the client keeps
  whether it runs and that it was linked, and owes one more round for each CONNACK noted that asks
  for one. The reader's reconnect and the CONNACK handler do so from a running client.

Start and Stop, settling and whole runs are in `Mqtt.Proofs.Restoring`.
-/

namespace Mqtt

/-! ## CONNACKs that ask for a round -/

/-- A CONNACK after which the subscriptions are sent again: it accepts, and the broker kept no
session. -/
def Connack.asksRound (p : Connack) : Bool := p.returnCode == 0 && !p.sessionPresent

/-- How many rounds of resubscription some CONNACKs ask for. -/
def Connack.roundsAsked (cs : List Connack) : Nat := (cs.filter Connack.asksRound).length

namespace Connack

@[simp] theorem roundsAsked_nil : roundsAsked [] = 0 := rfl

@[simp] theorem roundsAsked_append (cs ds : List Connack) :
    roundsAsked (cs ++ ds) = roundsAsked cs + roundsAsked ds := by
  simp [roundsAsked]

theorem roundsAsked_singleton (p : Connack) :
    roundsAsked [p] = if p.returnCode = 0 ∧ p.sessionPresent = false then 1 else 0 := by
  cases present : p.sessionPresent <;> by_cases accepted : p.returnCode = 0 <;>
    simp [roundsAsked, asksRound, present, accepted]

end Connack

/-- A client that runs has been linked since it started. -/
def Client.Linked (c : Client) : Prop := c.running = true → c.linkedOnce = true

theorem Client.linked_of_stopped {c : Client} (stopped : c.running = false) : c.Linked := by
  simp [Client.Linked, stopped]

/-- What the rounds a run owes depend on: whether the client runs, whether it was linked since it
started and the rounds it owes, and the CONNACKs noted. -/
def World.roundsView (w : World) : Bool × (Bool × Nat) × List Connack :=
  (w.client.running, w.client.rounds, w.trace.connacks)

theorem World.roundsView_eq_iff {w w' : World} :
    w'.roundsView = w.roundsView ↔ w'.client.running = w.client.running ∧
      w'.client.linkedOnce = w.client.linkedOnce ∧
      w'.client.resubscribesDue = w.client.resubscribesDue ∧
      w'.trace.connacks = w.trace.connacks := by
  simp [World.roundsView, Client.rounds, and_assoc]

theorem World.connacks_of_roundsView {w w' : World} (same : w'.roundsView = w.roundsView) :
    w'.trace.connacks = w.trace.connacks :=
  (World.roundsView_eq_iff.mp same).2.2.2

namespace Sim

/-! ## Actions that leave a view alone -/

/-- Every run of `x` leaves the view `v` of the world as it was. -/
def Keeps {β α : Type} (v : World → β) (x : Sim α) : Prop := ∀ w, v (x.run w).2 = v w

section Keeps

variable {β α α' : Type} {v : World → β}

theorem Keeps.bind {x : Sim α} {f : α → Sim α'} (hx : Keeps v x) (hf : ∀ a, Keeps v (f a)) :
    Keeps v (x >>= f) := by
  intro w
  rw [run_bind_snd, hf, hx]

theorem Keeps.pure (a : α) : Keeps v (Pure.pure a : Sim α) := fun _ => rfl

theorem Keeps.ite {c : Prop} [Decidable c] {x y : Sim α} (hx : Keeps v x) (hy : Keeps v y) :
    Keeps v (if c then x else y) := by
  split
  · exact hx
  · exact hy

/-- What follows a read of the world needs to keep the view only from that world. -/
theorem Keeps.get_bind {f : World → Sim α} (hf : ∀ w, v ((f w).run w).2 = v w) :
    Keeps v (get >>= f) :=
  hf

/-- After an action, what keeps a view leaves it as the action did. -/
theorem Keeps.bind_right {x : Sim α} {f : α → Sim α'} (hf : ∀ a, Keeps v (f a)) (w : World) :
    v ((x >>= f).run w).2 = v (x.run w).2 := by
  rw [run_bind_snd, hf]

end Keeps

/-! ## What the rounds owed depend on -/

section RoundsView

/-- What keeps the rounds owed and what they depend on keeps the CONNACKs noted. -/
theorem Keeps.connacks {α : Type} {x : Sim α} (hx : Keeps World.roundsView x) :
    Keeps (fun w : World => w.trace.connacks) x :=
  fun w => World.connacks_of_roundsView (hx w)

theorem keepsRoundsView_client : Keeps World.roundsView client := fun _ => rfl

theorem keepsRoundsView_get : Keeps World.roundsView (get : Sim World) := fun _ => rfl

theorem keepsRoundsView_now : Keeps World.roundsView now := fun _ => rfl

theorem keepsRoundsView_sleep (ms : Int) : Keeps World.roundsView (sleep ms) := fun _ => rfl

theorem keepsRoundsView_modifyNet (f : Network → Network) : Keeps World.roundsView (modifyNet f) :=
  fun _ => rfl

theorem keepsRoundsView_metric (f : Client → MetricStore → MetricStore) :
    Keeps World.roundsView (metric f) := fun _ => rfl

theorem keepsRoundsView_mark (m : BudgetMark) : Keeps World.roundsView (mark m) := fun _ => rfl

theorem keepsRoundsView_remoteAddr : Keeps World.roundsView remoteAddr := fun _ => rfl

/-- A change of the client that leaves whether it runs and its rounds alone. Callers prove `hf`
with `fun _ => by rfl` once `f` is known. -/
theorem keepsRoundsView_modifyClient {f : Client → Client}
    (hf : ∀ w : World, ({ w with client := f w.client } : World).roundsView = w.roundsView) :
    Keeps World.roundsView (modifyClient f) :=
  hf

/-- A change of the trace that leaves the CONNACKs noted alone. -/
theorem keepsRoundsView_record {f : Trace → Trace} (hf : ∀ t, (f t).connacks = t.connacks) :
    Keeps World.roundsView (record f) := by
  intro w
  simp [World.roundsView, hf]

theorem keepsRoundsView_log (l : LogLevel) (msg : String) (attrs : Doc.Fields) :
    Keeps World.roundsView (log l msg attrs) := by
  intro w
  rw [log_run]
  rfl

theorem LogsOnly.keepsRoundsView {α : Type} {x : Sim α} (h : LogsOnly x) :
    Keeps World.roundsView x := by
  intro w
  obtain ⟨logs, logged⟩ := h w
  rw [logged]
  rfl

theorem keepsRoundsView_emit (e : ClientEvent) : Keeps World.roundsView (emit e) :=
  keepsRoundsView_client.bind fun _ => .ite (keepsRoundsView_record fun _ => by rfl) (.pure _)

theorem keepsRoundsView_setState (s : ClientState) : Keeps World.roundsView (setState s) := by
  unfold setState
  exact keepsRoundsView_client.bind fun _ => .ite (.pure _) ((keepsRoundsView_log _ _ _).bind
    fun _ => (keepsRoundsView_modifyClient fun _ => by rfl).bind fun _ => keepsRoundsView_metric _)

theorem keepsRoundsView_dropConn (target : Option Nat) : Keeps World.roundsView (dropConn target) := by
  unfold dropConn
  refine keepsRoundsView_client.bind fun c => ?_
  refine .ite ((keepsRoundsView_modifyClient fun _ => by rfl).bind fun _ => ?_) ?_
  -- either way the link named, or else the current one, is closed if there is one
  all_goals
    split
    · exact keepsRoundsView_modifyNet _
    · exact .pure _

theorem keepsRoundsView_usable : Keeps World.roundsView usable :=
  keepsRoundsView_client.bind fun _ => .ite (.pure _) (.ite (.pure _) (.pure _))

theorem keepsRoundsView_writePacket (conn : Nat) (p : Packet) :
    Keeps World.roundsView (writePacket conn p) := by
  intro w
  unfold writePacket
  simp only [StateT.run_bind, client_run, pure_bind]
  cases w.client.codec.encode w.client.sendCap (some p) with
  | error e => rfl
  | ok bytes =>
    simp only
    rcases hres : w.net.write conn bytes with ⟨written, r, net⟩
    cases written <;> cases r <;> simp [hres, packetSent, World.roundsView, Client.rounds]

theorem keepsRoundsView_readPacket (conn : Nat) (timeout : Int) :
    Keeps World.roundsView (readPacket conn timeout) := by
  unfold readPacket
  refine keepsRoundsView_client.bind fun c => keepsRoundsView_get.bind fun w => ?_
  split
  · refine .ite (.pure _) ((keepsRoundsView_modifyNet _).bind fun _ => ?_)
    split
    · exact (keepsRoundsView_metric _).bind fun _ => .pure _
    · exact .ite (.ite (.pure _) (.ite (.pure _) ((keepsRoundsView_sleep _).bind fun _ => .pure _)))
        (.pure _)
  · exact .pure _

/-- Replacing the network of the world just read leaves the view alone. -/
theorem Keeps.set_net_bind {α : Type} {w : World} {n : Network} {f : Unit → Sim α}
    (hf : Keeps World.roundsView (f ())) :
    World.roundsView ((((set { w with net := n } : Sim Unit)) >>= f).run w).2 = w.roundsView :=
  hf { w with net := n }

theorem keepsRoundsView_connectOnce : Keeps World.roundsView connectOnce := by
  unfold connectOnce
  refine (keepsRoundsView_modifyClient fun _ => by rfl).bind fun _ =>
    (keepsRoundsView_mark _).bind fun _ => keepsRoundsView_client.bind fun c =>
    keepsRoundsView_remoteAddr.bind fun _ => (keepsRoundsView_log _ _ _).bind fun _ =>
    Keeps.get_bind fun w => ?_
  split
  next conn net found =>
    refine Keeps.set_net_bind ((keepsRoundsView_record fun _ => by rfl).bind fun _ => ?_)
    split
    · exact .pure _
    · refine (keepsRoundsView_writePacket _ _).bind fun r => ?_
      split
      · exact (keepsRoundsView_modifyNet _).bind fun _ => .pure _
      · refine keepsRoundsView_client.bind fun _ =>
          (keepsRoundsView_modifyClient fun _ => by rfl).bind fun _ => ?_
        dsimp only
        split
        · exact .ite ((keepsRoundsView_modifyNet _).bind fun _ => .pure _) (.pure _)
        · exact .pure _

theorem keepsRoundsView_nextId : Keeps World.roundsView nextId := by
  unfold nextId
  refine keepsRoundsView_client.bind fun _ => ?_
  split
  exact (keepsRoundsView_modifyClient fun _ => by rfl).bind fun _ => .pure _

theorem keepsRoundsView_dispatch (m : Message) : Keeps World.roundsView (dispatch m) := by
  unfold dispatch
  refine keepsRoundsView_client.bind fun _ => ?_
  split
  exact (keepsRoundsView_record fun _ => by rfl).bind fun _ =>
    .ite (keepsRoundsView_log _ _ _) (.pure _)

theorem keepsRoundsView_reply (conn : Nat) (p : Packet) : Keeps World.roundsView (reply conn p) := by
  unfold reply
  refine (keepsRoundsView_writePacket _ _).bind fun _ => ?_
  split
  · exact keepsRoundsView_log _ _ _
  · exact .pure _

theorem keepsRoundsView_pushAck (a : Ack) : Keeps World.roundsView (pushAck a) := by
  unfold pushAck
  refine keepsRoundsView_client.bind fun _ => ?_
  split
  exact (keepsRoundsView_modifyClient fun _ => by rfl).bind fun _ =>
    .ite (keepsRoundsView_log _ _ _) (.pure _)

theorem keepsRoundsView_handlePublish (conn : Nat) (p : Publish) :
    Keeps World.roundsView (handlePublish conn p) := by
  unfold handlePublish
  refine .ite ?_ ((keepsRoundsView_dispatch _).bind fun _ => .ite (keepsRoundsView_reply _ _) (.pure _))
  refine keepsRoundsView_client.bind fun _ => keepsRoundsView_now.bind fun _ => ?_
  split
  · exact (keepsRoundsView_modifyClient fun _ => by rfl).bind fun _ => keepsRoundsView_reply _ _
  · exact (keepsRoundsView_log _ _ _).bind fun _ => keepsRoundsView_reply _ _

end RoundsView

/-! ## Rounds owed -/

/-- `w'` follows `w` having taken `taken` rounds of resubscription, as every action that neither
starts nor stops the client does: whether the client runs is kept and, if it runs, it stays
linked; the rounds owed grew by those that the CONNACKs noted in between ask for, less those taken.
A client that does not run notes no CONNACK. -/
structure Relinked (taken : Nat) (w w' : World) : Prop where
  runs : w'.client.running = w.client.running
  linked : w'.client.Linked
  noted : ∃ cs, w'.trace.connacks = w.trace.connacks ++ cs ∧ (w.client.running = false → cs = []) ∧
    w'.client.resubscribesDue + taken = w.client.resubscribesDue + Connack.roundsAsked cs

namespace Relinked

theorem refl {w : World} (linked : w.client.Linked) : Relinked 0 w w :=
  ⟨rfl, linked, [], by simp, fun _ => rfl, by simp⟩

theorem trans {m n : Nat} {w₁ w₂ w₃ : World} (h₁ : Relinked m w₁ w₂) (h₂ : Relinked n w₂ w₃) :
    Relinked (m + n) w₁ w₃ := by
  obtain ⟨runs₁, -, cs₁, noted₁, quiet₁, due₁⟩ := h₁
  obtain ⟨runs₂, linked₂, cs₂, noted₂, quiet₂, due₂⟩ := h₂
  refine ⟨runs₂.trans runs₁, linked₂, cs₁ ++ cs₂, by rw [noted₂, noted₁, List.append_assoc],
    fun stopped => ?_, ?_⟩
  · rw [quiet₁ stopped, quiet₂ (runs₁.trans stopped)]
    rfl
  · rw [Connack.roundsAsked_append]
    omega

/-- A world whose view is that of a linked client's world follows it, having taken nothing. -/
theorem of_view {w w' : World} (same : w'.roundsView = w.roundsView) (linked : w.client.Linked) :
    Relinked 0 w w' := by
  obtain ⟨runs, once, due, noted⟩ := World.roundsView_eq_iff.mp same
  exact ⟨runs, fun running => once ▸ linked (runs ▸ running), [], by simp [noted], fun _ => rfl,
    by simp [due]⟩

end Relinked

/-- Every run of `x` from a world whose client is linked if it runs, and runs as `S` allows, is
`Relinked` with nothing taken. -/
def Relinks (S : Bool → Prop) {α : Type} (x : Sim α) : Prop :=
  ∀ w, S w.client.running → w.client.Linked → Relinked 0 w (x.run w).2

section Relinks

variable {S : Bool → Prop} {α β : Type}

theorem Relinks.bind {x : Sim α} {f : α → Sim β} (hx : Relinks S x) (hf : ∀ a, Relinks S (f a)) :
    Relinks S (x >>= f) := by
  intro w allowed linked
  have first := hx w allowed linked
  rw [run_bind_snd]
  exact first.trans (hf _ _ (first.runs ▸ allowed) first.linked)

theorem Relinks.pure (a : α) : Relinks S (Pure.pure a : Sim α) := fun _ _ linked => .refl linked

theorem Relinks.ite {c : Prop} [Decidable c] {x y : Sim α} (hx : Relinks S x) (hy : Relinks S y) :
    Relinks S (if c then x else y) := by
  split
  · exact hx
  · exact hy

theorem Relinks.map {x : Sim α} (f : α → β) (hx : Relinks S x) : Relinks S (f <$> x) :=
  fun w => hx w

theorem Keeps.relinks {x : Sim α} (hx : Keeps World.roundsView x) : Relinks S x :=
  fun w _ linked => .of_view (hx w) linked

/-- An action that does nothing to a client that does not run, and counts from a running one,
counts from every client. -/
theorem Relinks.of_stopped {x : Sim α} (running : Relinks (· = true) x)
    (stopped : ∀ w, w.client.running = false → (x.run w).2 = w) : Relinks S x := by
  intro w _ linked
  cases runs : w.client.running with
  | false =>
    rw [stopped w runs]
    exact .refl linked
  | true => exact running w runs linked

/-- What holds of every world a run of `x` is `Relinked` to holds after `x`. -/
theorem Relinks.then {R : World → Prop} {x : Sim α} (hx : Relinks (fun _ => True) x) {w : World}
    (linked : w.client.Linked) (rest : ∀ w', Relinked 0 w w' → R w') : R (x.run w).2 :=
  rest _ (hx w trivial linked)

theorem Relinks.forIn {γ : Type} (l : List γ) (init : PUnit) (g : γ → PUnit → Sim (ForInStep PUnit))
    (hg : ∀ b u, Relinks S (g b u)) : Relinks S (forIn l init g) := by
  induction l generalizing init with
  | nil => exact .pure _
  | cons b rest ih =>
    rw [List.forIn_cons]
    refine (hg b init).bind fun step => ?_
    cases step with
    | done u => exact .pure _
    | yield u => exact ih u

end Relinks

/-! ## The CONNACK handler and the reader -/

/-- Handling a CONNACK notes it, and nothing else the handler does touches the CONNACKs noted. -/
theorem handleConnack_noted (p : Connack) (w : World) :
    ((handleConnack p).run w).2.trace.connacks = w.trace.connacks ++ [p] := by
  unfold handleConnack
  refine (Keeps.bind_right (v := fun w : World => w.trace.connacks) (fun _ => ?_) w).trans rfl
  refine .ite ((keepsRoundsView_setState _).bind fun _ => (keepsRoundsView_dropConn _).bind
    fun _ => (keepsRoundsView_log _ _ _).bind fun _ => .pure _).connacks ?_
  -- the change that links the client touches only the client
  have linking : ∀ f, Keeps (fun w : World => w.trace.connacks) (modifyClient f) := fun _ _ => rfl
  exact keepsRoundsView_now.connacks.bind fun t => (keepsRoundsView_setState _).connacks.bind
    fun _ => keepsRoundsView_client.connacks.bind fun _ => (linking _).bind fun _ =>
    ((keepsRoundsView_mark _).bind fun _ => keepsRoundsView_remoteAddr.bind fun _ =>
      (keepsRoundsView_log _ _ _).bind fun _ => (keepsRoundsView_emit _).bind fun _ =>
      .pure _).connacks

/-- A running client, linked since it started, handles a CONNACK by noting it and owing one more
round exactly when it asks for one. -/
theorem relinks_handleConnack (p : Connack) : Relinks (· = true) (handleConnack p) := by
  intro w running linked
  have once := linked running
  have rounds := handleConnack_rounds p w
  simp only [Client.rounds, Prod.mk.injEq] at rounds
  have runs := ((writes_handleConnack (P := fun _ => True) p) w).1.running
  refine ⟨runs, fun _ => by rw [rounds.1, once, Bool.or_true], [p], handleConnack_noted p w,
    fun stopped => absurd (running.symm.trans stopped) (by decide), ?_⟩
  rw [rounds.2, Connack.roundsAsked_singleton]
  simp [once, running]

theorem relinks_awaitConnack (conn : Nat) : Relinks (· = true) (awaitConnack conn) := by
  unfold awaitConnack
  refine keepsRoundsView_client.relinks.bind fun _ =>
    (keepsRoundsView_readPacket _ _).relinks.bind fun outcome => ?_
  cases outcome with
  | idle => exact (keepsRoundsView_sleep _).relinks.bind fun _ => .pure _
  | failed e => exact .pure _
  | packet p =>
    refine keepsRoundsView_now.relinks.bind fun _ =>
      (keepsRoundsView_modifyClient fun _ => by rfl).relinks.bind fun _ => ?_
    cases p
    case connack a => exact relinks_handleConnack a
    all_goals exact .pure _

theorem relinks_connectBlockingLoop (lastErr : Option Failure) (fuel : Nat) :
    Relinks (· = true) (connectBlockingLoop lastErr fuel) := by
  induction fuel generalizing lastErr with
  | zero => exact .pure _
  | succ fuel ih =>
    unfold connectBlockingLoop
    refine keepsRoundsView_client.relinks.bind fun c => .ite ?_ ?_
    · exact ((keepsRoundsView_setState _).bind fun _ => (keepsRoundsView_mark _).bind fun _ =>
        (keepsRoundsView_log _ _ _).bind fun _ => .pure _).relinks
    · refine keepsRoundsView_connectOnce.relinks.bind fun r => ?_
      extract_lets retry
      -- a failed attempt logs, waits the reconnect delay and tries again
      have retrying : ∀ err, Relinks (· = true) (retry err) := fun err =>
        keepsRoundsView_remoteAddr.relinks.bind fun _ => (keepsRoundsView_log _ _ _).relinks.bind
          fun _ => keepsRoundsView_client.relinks.bind fun _ =>
          (keepsRoundsView_sleep _).relinks.bind fun _ => ih _
      split
      · exact (Relinks.pure _).bind retrying
      · refine (relinks_awaitConnack _).bind fun r => ?_
        split
        · exact .pure _
        · exact .ite (.pure _) ((keepsRoundsView_dropConn _).relinks.bind fun _ =>
            .ite (.pure _) ((Relinks.pure _).bind retrying))

/-- The reader's blocking reconnect, from a running client, counts every CONNACK it handles. -/
theorem relinks_connectBlocking : Relinks (· = true) connectBlocking :=
  keepsRoundsView_client.relinks.bind fun _ => relinks_connectBlockingLoop _ _

theorem relinks_handlePacket (conn : Nat) (p : Packet) : Relinks (· = true) (handlePacket conn p) := by
  unfold handlePacket
  refine keepsRoundsView_now.relinks.bind fun _ =>
    (keepsRoundsView_modifyClient fun _ => by rfl).relinks.bind fun _ => ?_
  cases p
  case connack a => exact (relinks_handleConnack a).bind fun _ => .pure _
  case publish q => exact (keepsRoundsView_handlePublish _ _).relinks
  case pubrel i =>
    refine Keeps.relinks ?_
    refine keepsRoundsView_client.bind fun _ => ?_
    split
    refine (keepsRoundsView_modifyClient fun _ => by rfl).bind fun _ => ?_
    split
    · exact (keepsRoundsView_dispatch _).bind fun _ => keepsRoundsView_reply _ _
    · exact keepsRoundsView_reply _ _
  case pingresp => exact .pure _
  all_goals first
    | exact (keepsRoundsView_pushAck _).relinks
    | exact (keepsRoundsView_log _ _ _).relinks

/-- Losing the connection of a running client: a linked one reconnects at once, and counts every
CONNACK of that reconnect. -/
theorem relinks_handleFin (conn : Nat) : Relinks (· = true) (handleFin conn) := by
  unfold handleFin
  refine keepsRoundsView_client.relinks.bind fun c => .ite (.pure _) ?_
  refine (keepsRoundsView_modifyClient fun _ => by rfl).relinks.bind fun _ => ?_
  extract_lets linked closing
  have closes : ∀ u, Relinks (· = true) (closing u) := fun _ =>
    (keepsRoundsView_modifyNet _).relinks.bind fun _ => by
      refine .ite (keepsRoundsView_client.relinks.bind fun _ => .pure _) ?_
      refine keepsRoundsView_remoteAddr.relinks.bind fun _ => (keepsRoundsView_log _ _ _).relinks.bind
        fun _ => keepsRoundsView_client.relinks.bind fun _ => (keepsRoundsView_sleep _).relinks.bind
        fun _ => (keepsRoundsView_metric _).relinks.bind fun _ => relinks_connectBlocking.bind fun r => ?_
      split
      · exact .pure _
      · exact .ite (((keepsRoundsView_setState _).bind fun _ => keepsRoundsView_now.bind fun _ =>
          (keepsRoundsView_modifyClient fun _ => by rfl).bind fun _ => .pure _).relinks)
          (((keepsRoundsView_log _ _ _).bind fun _ => keepsRoundsView_client.bind fun _ =>
            .pure _).relinks)
  exact .ite ((keepsRoundsView_setState _).relinks.bind closes) (closes ())

/-- The reader's turn: nothing for a client that does not run; for one that runs, every CONNACK it
handles, read or met in its reconnect, is counted. -/
theorem relinks_readerTurn {S : Bool → Prop} : Relinks S readerTurn := by
  refine Relinks.of_stopped ?_ fun w stopped => by rw [readerTurn_stopped w stopped]
  unfold readerTurn
  refine keepsRoundsView_client.relinks.bind fun _ => .ite (.pure _) ?_
  refine keepsRoundsView_get.relinks.bind fun _ => ?_
  dsimp only
  split
  · exact (keepsRoundsView_modifyClient fun _ => by rfl).relinks.bind fun _ => .pure _
  · refine (keepsRoundsView_modifyClient fun _ => by rfl).relinks.bind fun _ =>
      (keepsRoundsView_readPacket _ _).relinks.bind fun outcome => ?_
    cases outcome with
    | idle => exact .pure _
    | packet p =>
      exact (relinks_handlePacket _ p).bind fun _ => keepsRoundsView_client.relinks.bind fun _ =>
        .ite ((keepsRoundsView_modifyClient fun _ => by rfl).relinks.bind fun _ => .pure _)
          (.pure _)
    | failed e =>
      refine .ite ((keepsRoundsView_log _ _ _).relinks.bind fun _ => .pure _)
        (.ite ((keepsRoundsView_log _ _ _).relinks.bind fun _ => .pure _) ?_)
      exact (keepsRoundsView_log _ _ _).relinks.bind fun _ =>
        (keepsRoundsView_modifyClient fun _ => by rfl).relinks.bind fun _ =>
        (relinks_handleFin _).bind fun _ =>
          .ite ((keepsRoundsView_modifyClient fun _ => by rfl).relinks.bind fun _ => .pure _)
            (.pure _)

theorem relinks_pumpFor {S : Bool → Prop} (fuel : Nat) : Relinks S (pumpFor fuel) := by
  induction fuel with
  | zero => exact .pure _
  | succ fuel ih =>
    refine relinks_readerTurn.bind fun turn => ?_
    cases turn with
    | blocked => exact .pure _
    | progressed => exact ih

/-- The reader, run until it waits, counts every CONNACK it handles. -/
theorem relinks_pump {S : Bool → Prop} : Relinks S pump := relinks_pumpFor _

/-! ## Operations -/

section Operations

variable {S : Bool → Prop}

theorem relinks_writeAndPump (conn : Nat) (p : Packet) : Relinks S (writeAndPump conn p) :=
  (keepsRoundsView_writePacket _ _).relinks.bind fun _ => relinks_pump.bind fun _ => .pure _

theorem relinks_send (p : Packet) : Relinks S (send p) := by
  refine keepsRoundsView_client.relinks.bind fun _ => ?_
  split
  · exact .pure _
  · exact relinks_writeAndPump _ _

theorem relinks_sendAndWaitFrom (expect : PacketKind) (timeout : Int) (dupOnRetry : Bool)
    (attempts : Int) (id : UInt16) (fuel attempt : Nat) (p : Packet) :
    Relinks S (sendAndWaitFrom expect timeout dupOnRetry attempts id fuel attempt p) := by
  induction fuel generalizing attempt p with
  | zero => exact .pure _
  | succ fuel ih =>
    unfold sendAndWaitFrom
    -- each attempt sends, then takes the acknowledgment or waits and tries again
    extract_lets attempt_once
    have attempting : ∀ q, Relinks S (attempt_once q) := by
      intro q
      simp only [attempt_once]
      refine (relinks_send q).bind fun sent => ?_
      split
      · exact .pure _
      · refine keepsRoundsView_client.relinks.bind fun _ =>
          (keepsRoundsView_modifyClient fun _ => by rfl).relinks.bind fun _ => ?_
        split
        · exact ((keepsRoundsView_record fun _ => by rfl).bind fun _ =>
            (keepsRoundsView_metric _).bind fun _ => .pure _).relinks
        · exact (keepsRoundsView_sleep _).relinks.bind fun _ =>
            (keepsRoundsView_log _ _ _).relinks.bind fun _ => ih _ _
    refine .ite ?_ ((Relinks.pure _).bind attempting)
    refine keepsRoundsView_usable.relinks.bind fun _ => ?_
    split
    · exact .pure _
    · exact (keepsRoundsView_metric _).relinks.bind fun _ => (Relinks.pure _).bind attempting

theorem relinks_sendAndWait (p : Packet) (expect : PacketKind) (timeout : Int) (dupOnRetry : Bool) :
    Relinks S (sendAndWait p expect timeout dupOnRetry) :=
  keepsRoundsView_client.relinks.bind fun _ => relinks_sendAndWaitFrom _ _ _ _ _ _ _ _

theorem relinks_subscribeRemote (e : Subscription.Entry HandlerRef) :
    Relinks S (subscribeRemote e) := by
  unfold subscribeRemote
  refine keepsRoundsView_nextId.relinks.bind fun _ => keepsRoundsView_client.relinks.bind fun _ =>
    (relinks_sendAndWait _ _ _ _).bind fun acked => ?_
  cases acked with
  | error err => exact .pure _
  | ok a => exact .ite (.pure _) ((keepsRoundsView_log _ _ _).relinks.bind fun _ => .pure _)

theorem relinks_resubscribeEach (entries : List (Subscription.Entry HandlerRef))
    (first : Option Failure) : Relinks S (resubscribeEach entries first) := by
  induction entries generalizing first with
  | nil => cases first <;> exact .pure _
  | cons e rest ih =>
    refine (relinks_subscribeRemote e).bind fun subscribed => ?_
    cases subscribed with
    | ok u => exact ih _
    | error err => exact (keepsRoundsView_log _ _ _).relinks.bind fun _ => ih _

/-- A round over the table counts every CONNACK the reader handles while it waits. -/
theorem relinks_resubscribe : Relinks S resubscribe :=
  keepsRoundsView_client.relinks.bind fun _ => relinks_resubscribeEach _ _

theorem relinks_sendDisconnect : Relinks S sendDisconnect := by
  refine keepsRoundsView_client.relinks.bind fun _ => ?_
  split
  · refine (relinks_writeAndPump _ _).bind fun sent => ?_
    split
    · exact (keepsRoundsView_log _ _ _).relinks
    · exact .pure _
  · exact .pure _

theorem relinks_disconnect : Relinks S disconnect := by
  refine keepsRoundsView_client.relinks.bind fun _ => .ite (.pure _) ?_
  refine relinks_sendDisconnect.bind fun _ => (keepsRoundsView_dropConn none).relinks.bind fun _ =>
    keepsRoundsView_client.relinks.bind fun _ => ?_
  exact .ite ((keepsRoundsView_setState _).relinks.bind fun _ => .pure _) (.pure _)

theorem keepsRoundsView_stopReader : Keeps World.roundsView stopReader :=
  keepsRoundsView_modifyClient fun _ => by dsimp only [World.roundsView]; split <;> rfl

theorem keepsRoundsView_setKeepAliveInterval (ms : Int) :
    Keeps World.roundsView (setKeepAliveInterval ms) :=
  .ite (.pure _) (keepsRoundsView_now.bind fun _ =>
    (keepsRoundsView_modifyClient fun _ => by rfl).bind fun _ => .pure _)

theorem keepsRoundsView_preparePublish (msg : Option Message) :
    Keeps World.roundsView (preparePublish msg) := by
  unfold preparePublish
  split
  · refine keepsRoundsView_usable.bind fun _ => ?_
    split
    · exact .pure _
    · split
      · exact .pure _
      · exact .ite (.pure _) (.pure _)
  · exact .pure _

theorem relinks_publishAcked (p : Publish) (timeout : Int) : Relinks S (publishAcked p timeout) := by
  unfold publishAcked
  refine keepsRoundsView_nextId.relinks.bind fun _ => ?_
  refine .ite ((relinks_sendAndWait _ _ _ _).bind fun _ => .pure _) ?_
  refine (relinks_sendAndWait _ _ _ _).bind fun released => ?_
  cases released with
  | error e => exact .pure _
  | ok a => exact (relinks_sendAndWait _ _ _ _).bind fun _ => .pure _

theorem relinks_publish (msg : Option Message) (timeout : Int) : Relinks S (publish msg timeout) := by
  refine (keepsRoundsView_preparePublish msg).relinks.bind fun prepared => ?_
  cases prepared with
  | error e => exact .pure _
  | ok p =>
    refine keepsRoundsView_client.relinks.bind fun _ => ?_
    extract_lets wait publishNow
    have publishing : ∀ u, Relinks S (publishNow u) := by
      intro u
      simp only [publishNow]
      exact .ite (relinks_send _) (relinks_publishAcked _ _)
    refine .ite ?_ (publishing ())
    refine keepsRoundsView_now.relinks.bind fun _ => ?_
    split
    exact .ite (.pure _) ((keepsRoundsView_modifyClient fun _ => by rfl).relinks.bind fun _ =>
      (keepsRoundsView_sleep _).relinks.bind publishing)

theorem relinks_publishAsync (msg : Option Message) : Relinks S (publishAsync msg) := by
  refine (keepsRoundsView_preparePublish msg).relinks.bind fun prepared => ?_
  cases prepared with
  | error e => exact .pure _
  | ok p =>
    refine keepsRoundsView_client.relinks.bind fun _ => ?_
    extract_lets publishNow numbered
    have numbering : ∀ u, Relinks S (numbered u) := by
      intro u
      simp only [numbered, publishNow]
      exact .ite (keepsRoundsView_nextId.relinks.bind fun _ => (Relinks.pure _).bind fun _ =>
        relinks_send _) ((Relinks.pure _).bind fun _ => relinks_send _)
    refine .ite ?_ (numbering ())
    refine keepsRoundsView_now.relinks.bind fun _ => ?_
    split
    exact .ite (.pure _) ((keepsRoundsView_modifyClient fun _ => by rfl).relinks.bind numbering)

theorem relinks_subscribe (filter : Bytes) (qos : UInt8) (handler : Option HandlerRef) :
    Relinks S (subscribe filter qos handler) := by
  unfold subscribe
  refine keepsRoundsView_usable.relinks.bind fun _ => ?_
  split
  · exact .pure _
  split
  · exact .pure _
  refine .ite (.pure _) (keepsRoundsView_client.relinks.bind fun _ => .ite (.pure _) (.ite (.pure _) ?_))
  refine (relinks_subscribeRemote _).bind fun subscribed => ?_
  split
  · exact .pure _
  refine keepsRoundsView_client.relinks.bind fun _ => ?_
  split
  · exact .pure _
  · exact (keepsRoundsView_modifyClient fun _ => by rfl).relinks.bind fun _ => .pure _

theorem relinks_unsubscribe (filter : Bytes) : Relinks S (unsubscribe filter) := by
  unfold unsubscribe
  refine keepsRoundsView_usable.relinks.bind fun _ => ?_
  split
  · exact .pure _
  refine .ite (.pure _) (keepsRoundsView_client.relinks.bind fun _ => .ite (.pure _) ?_)
  refine keepsRoundsView_nextId.relinks.bind fun _ => keepsRoundsView_client.relinks.bind fun _ =>
    (relinks_sendAndWait _ _ _ _).bind fun acked => ?_
  split
  · exact .pure _
  · exact (keepsRoundsView_modifyClient fun _ => by rfl).relinks.bind fun _ => .pure _

theorem relinks_control (cmd : Int) (arg : ControlArg) : Relinks S (control cmd arg) := by
  unfold control
  refine keepsRoundsView_client.relinks.bind fun _ => .ite (.pure _) ?_
  split
  · -- events on or off
    split
    · exact (keepsRoundsView_modifyClient fun _ => by rfl).relinks.bind fun _ => .pure _
    · exact (keepsRoundsView_modifyClient fun _ => by rfl).relinks.bind fun _ => .pure _
    · exact (keepsRoundsView_modifyClient fun _ => by rfl).relinks.bind fun _ => .pure _
    · exact .pure _
  · -- a subscription added to the table only
    dsimp only
    split
    · exact .pure _
    · split
      · exact .pure _
      · refine keepsRoundsView_client.relinks.bind fun _ => ?_
        split
        · exact .pure _
        · exact (keepsRoundsView_modifyClient fun _ => by rfl).relinks.bind fun _ => .pure _
    · exact .pure _
  · split
    · exact (keepsRoundsView_setKeepAliveInterval _).relinks.bind fun _ => .pure _
    · exact .pure _
  · exact keepsRoundsView_client.relinks.bind fun _ => .pure _
  · exact keepsRoundsView_stopReader.relinks.bind fun _ => .pure _
  · exact relinks_disconnect.bind fun _ => .pure _
  · exact .pure _

/-! ### The timer -/

theorem relinks_keepAliveTick (t : Int) : Relinks S (keepAliveTick t) := by
  unfold keepAliveTick
  refine keepsRoundsView_client.relinks.bind fun _ => .ite (.pure _) ?_
  split
  refine (keepsRoundsView_modifyClient fun _ => by rfl).relinks.bind fun _ => ?_
  split
  · exact ((keepsRoundsView_setState _).bind fun _ => keepsRoundsView_log _ _ _).relinks
  · split
    · refine (relinks_writeAndPump _ _).bind fun pinged => ?_
      split
      · exact (keepsRoundsView_log _ _ _).relinks
      · exact (keepsRoundsView_emit _).relinks
    · exact .pure _
  · exact .pure _

/-- The timer's reconnect writes CONNECT and lets the reader run: the CONNACK that answers it is
read by the reader, and counted. -/
theorem relinks_reconnectTick (t : Int) : Relinks S (reconnectTick t) := by
  unfold reconnectTick
  refine keepsRoundsView_client.relinks.bind fun c => ?_
  split
  · refine (keepsRoundsView_modifyClient fun _ => by rfl).relinks.bind fun _ =>
      (keepsRoundsView_setState _).relinks.bind fun _ => (keepsRoundsView_emit _).relinks.bind
      fun _ => ?_
    split
    · exact (keepsRoundsView_modifyNet _).relinks.bind fun _ => .pure _
    · exact .pure _
  · split
    · exact .pure _
    split
    · exact (keepsRoundsView_modifyClient fun _ => by rfl).relinks.bind fun _ =>
        (keepsRoundsView_modifyNet _).relinks.bind fun _ => .pure _
    split
    · exact ((keepsRoundsView_setState _).bind fun _ => (keepsRoundsView_mark _).bind fun _ =>
        (keepsRoundsView_log _ _ _).bind fun _ => .pure _).relinks
    · refine (keepsRoundsView_modifyClient fun _ => by rfl).relinks.bind fun _ =>
        (keepsRoundsView_metric _).relinks.bind fun _ =>
        keepsRoundsView_connectOnce.relinks.bind fun attempted => ?_
      -- a failed attempt is only logged; the reader then runs
      have rest : Relinks S (do pump; emit .link; pure false) :=
        relinks_pump.bind fun _ => (keepsRoundsView_emit _).relinks.bind fun _ => .pure _
      dsimp only
      split
      · exact keepsRoundsView_remoteAddr.relinks.bind fun _ =>
          (keepsRoundsView_log _ _ _).relinks.bind fun _ => rest
      · exact rest
  · exact .pure _
  · exact .pure _

theorem keepsRoundsView_qos2Cycle (t : Int) : Keeps World.roundsView (qos2Cycle t) := by
  unfold qos2Cycle
  refine keepsRoundsView_client.bind fun _ => ?_
  split
  refine (keepsRoundsView_modifyClient fun _ => by rfl).bind fun _ => ?_
  dsimp only
  exact .ite ((keepsRoundsView_metric _).bind fun _ =>
      (logsOnly_forIn _ _ fun _ => logsOnly_log _ _ _).keepsRoundsView.bind fun _ => .pure _)
    (.pure _)

theorem relinks_qos2Tick (t : Int) : Relinks S (qos2Tick t) := by
  unfold qos2Tick
  refine (keepsRoundsView_qos2Cycle t).relinks.bind fun _ => .ite (.pure _) ?_
  refine keepsRoundsView_client.relinks.bind fun _ => ?_
  split
  · exact Relinks.forIn _ _ _ fun _ _ => (keepsRoundsView_reply _ _).relinks.bind fun _ =>
      relinks_pump.bind fun _ => .pure _
  · exact .pure _

theorem relinks_tick (t : Int) : Relinks S (tick t) :=
  (relinks_keepAliveTick t).bind fun _ => (relinks_reconnectTick t).bind fun _ =>
    .ite (.pure _) ((relinks_qos2Tick t).bind fun _ => .pure _)

theorem keepsRoundsView_onNewestLink (f : Nat → Network → Network) :
    Keeps World.roundsView (onNewestLink f) := by
  refine keepsRoundsView_get.bind fun _ => ?_
  split
  · exact .pure _
  · exact (keepsRoundsView_modifyNet _).bind fun _ => .pure _

end Operations

end Sim

end Mqtt
