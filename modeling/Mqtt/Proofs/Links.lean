import Mqtt.Proofs.Inbound
/-! # What the client does to its connections

The client changes the network in few ways: it dials a new connection, writes on a connection
(and the broker answers on it at once), closes a connection from its side, and takes bytes off the
front of a connection it reads. No link is ever removed, so a link the client closed stays closed
(`Network.KeepsClosed`); and as long as the client reads nothing, the unread bytes of each link
only grow at the end (`Network.Grows`).

`Sim.Moves R x` says that every run of `x` moves the network along such an order `R`. It is built
up like the other properties of actions, from `bind`, `pure` and `ite` and one lemma for each
primitive action. Handling a packet only grows the network (`Sim.moves_handlePacket`), and
reacting to a lost connection, reconnecting included, keeps closed what the client closed and
closes the connection lost when it was the current one (`Sim.handleFin_net`).
-/

namespace Mqtt

namespace Network

/-- A change to one link that keeps link numbers leaves the other links as they were. -/
theorem get?_modify (n : Network) (y : Nat) (f : Link → Link) (keepsId : ∀ l, (f l).id = l.id)
    (x : Nat) : (n.modify y f).get? x = (n.get? x).map fun l => if l.id == y then f l else l := by
  have sameId : ((·.id == x) ∘ fun l => if l.id == y then f l else l) = (·.id == x) := by
    funext l
    by_cases h : l.id = y <;> simp [h, keepsId]
  simp only [get?, modify, List.find?_map, sameId]

theorem get?_modify_self (n : Network) (x : Nat) (f : Link → Link) (keepsId : ∀ l, (f l).id = l.id) :
    (n.modify x f).get? x = (n.get? x).map f := by
  rw [get?_modify n x f keepsId]
  cases found : n.get? x with
  | none => rfl
  | some l =>
    have same : (l.id == x) = true := List.find?_some (p := fun k : Link => k.id == x) found
    rw [Option.map_some, Option.map_some, if_pos same]

theorem get?_consume (n : Network) (x k : Nat) :
    (n.consume x k).get? x = (n.get? x).map fun l => { l with inbound := l.inbound.drop k } :=
  get?_modify_self n x _ fun _ => rfl

/-- A dial only adds a link. -/
theorem get?_dial (n : Network) {x : Nat} {l : Link} (found : n.get? x = some l) :
    n.dial.2.get? x = some l := by
  unfold dial
  split
  split
  · simp only [get?, List.find?_append]
    rw [show n.links.find? (fun k => k.id == x) = some l from found]
    rfl
  · exact found

/-! ## Two orders on networks -/

/-- A link the client closed in `n` is closed in `n'` too. -/
def KeepsClosed (n n' : Network) : Prop :=
  ∀ x, (n.get? x).any Link.closedByClient = true → (n'.get? x).any Link.closedByClient = true

/-- Every link of `n` is in `n'`, with its unread bytes grown only at the end, and closed if the
client had closed it. -/
def Grows (n n' : Network) : Prop :=
  ∀ x l, n.get? x = some l → ∃ l', n'.get? x = some l' ∧ l.inbound <+: l'.inbound ∧
    (l.closedByClient = true → l'.closedByClient = true)

theorem KeepsClosed.refl (n : Network) : KeepsClosed n n := fun _ => id

theorem KeepsClosed.trans {a b c : Network} (first : KeepsClosed a b) (second : KeepsClosed b c) :
    KeepsClosed a c :=
  fun x closed => second x (first x closed)

theorem Grows.refl (n : Network) : Grows n n := fun _ l found => ⟨l, found, List.prefix_refl _, id⟩

theorem Grows.trans {a b c : Network} (first : Grows a b) (second : Grows b c) : Grows a c := by
  intro x l found
  obtain ⟨l₁, found₁, prefix₁, closed₁⟩ := first x l found
  obtain ⟨l₂, found₂, prefix₂, closed₂⟩ := second x l₁ found₁
  exact ⟨l₂, found₂, prefix₁.trans prefix₂, closed₂ ∘ closed₁⟩

theorem Grows.keepsClosed {n n' : Network} (grows : Grows n n') : KeepsClosed n n' := by
  intro x closed
  cases found : n.get? x with
  | none =>
    rw [found] at closed
    cases closed
  | some l =>
    obtain ⟨l', found', -, stays⟩ := grows x l found
    rw [found, Option.any_some] at closed
    rw [found', Option.any_some]
    exact stays closed

/-- A change of one link that keeps its number and leaves it closed if it was. -/
theorem keepsClosed_modify (n : Network) (y : Nat) (f : Link → Link)
    (keepsId : ∀ l, (f l).id = l.id)
    (stays : ∀ l, l.closedByClient = true → (f l).closedByClient = true) :
    KeepsClosed n (n.modify y f) := by
  intro x closed
  rw [get?_modify n y f keepsId]
  cases found : n.get? x with
  | none =>
    rw [found] at closed
    cases closed
  | some l =>
    rw [found, Option.any_some] at closed
    simp only [Option.map_some, Option.any_some]
    split
    · exact stays l closed
    · exact closed

/-- A change of one link that keeps its number, only appends to its unread bytes and leaves it
closed if it was. -/
theorem grows_modify (n : Network) (y : Nat) (f : Link → Link) (keepsId : ∀ l, (f l).id = l.id)
    (appends : ∀ l, l.inbound <+: (f l).inbound)
    (stays : ∀ l, l.closedByClient = true → (f l).closedByClient = true) :
    Grows n (n.modify y f) := by
  intro x l found
  rw [get?_modify n y f keepsId, found]
  refine ⟨_, rfl, ?_, ?_⟩ <;> dsimp only
  · split
    · exact appends l
    · exact List.prefix_refl _
  · split
    · exact stays l
    · exact id

theorem grows_closeByClient (n : Network) (y : Nat) : Grows n (n.closeByClient y) :=
  grows_modify n y _ (fun _ => rfl) (fun _ => List.prefix_refl _) (fun _ _ => rfl)

theorem grows_apply (n : Network) (y : Nat) (act : BrokerAction) : Grows n (n.apply y act) := by
  cases act with
  | none => exact Grows.refl n
  | send b => exact grows_modify n y _ (fun _ => rfl) (fun _ => List.prefix_append _ _) (fun _ => id)
  | close => exact grows_modify n y _ (fun _ => rfl) (fun _ => List.prefix_refl _) (fun _ => id)

/-- A write changes the links only by the broker's answer on the link written. -/
theorem grows_write (n : Network) (y : Nat) (b : Bytes) : Grows n (n.write y b).2.2 := by
  unfold write
  split
  · exact Grows.refl n
  · split
    · exact Grows.refl n
    · split
      · exact Grows.refl n
      · split
        · exact Grows.refl n
        · split
          · exact Grows.refl n
          · -- the broker's own state is not part of the links
            split
            next act br _ =>
              have answered := grows_apply { n with broker := br } y act
              exact answered

theorem grows_dial (n : Network) : Grows n n.dial.2 :=
  fun _ l found => ⟨l, get?_dial n found, List.prefix_refl _, id⟩

/-- Taking no bytes changes nothing. -/
@[simp] theorem consume_zero (n : Network) (y : Nat) : n.consume y 0 = n := by
  simp [consume, modify]

theorem keepsClosed_consume (n : Network) (y k : Nat) : KeepsClosed n (n.consume y k) :=
  keepsClosed_modify n y _ (fun _ => rfl) fun _ => id

theorem Grows.present {n n' : Network} (grows : Grows n n') {y : Nat} (present : (n.get? y).isSome) :
    (n'.get? y).isSome := by
  obtain ⟨l, found⟩ := Option.isSome_iff_exists.mp present
  obtain ⟨l', found', -⟩ := grows y l found
  rw [found']
  rfl

theorem closed_closeByClient (n : Network) {y : Nat} (present : (n.get? y).isSome) :
    ((n.closeByClient y).get? y).any Link.closedByClient = true := by
  rw [closeByClient, get?_modify_self n y (fun l => { l with closedByClient := true }) fun _ => rfl]
  obtain ⟨l, found⟩ := Option.isSome_iff_exists.mp present
  rw [found]
  rfl

end Network

/-- An order along which actions of the client move the network. -/
structure NetOrder where
  rel : Network → Network → Prop
  refl : ∀ n, rel n n
  trans : ∀ {a b c}, rel a b → rel b c → rel a c

namespace NetOrder

/-- Links closed by the client stay closed. -/
def keepsClosed : NetOrder := ⟨Network.KeepsClosed, .refl, .trans⟩

/-- Links stay, their unread bytes grow at the end, and closed links stay closed. -/
def grows : NetOrder := ⟨Network.Grows, .refl, .trans⟩

@[simp] theorem keepsClosed_rel : keepsClosed.rel = Network.KeepsClosed := rfl

@[simp] theorem grows_rel : grows.rel = Network.Grows := rfl

end NetOrder

namespace Sim

/-- Every run of `x` moves the network along `R`. -/
def Moves (R : NetOrder) {α : Type} (x : Sim α) : Prop :=
  ∀ w, R.rel w.net (x.run w).2.net

section Rules

variable {R : NetOrder} {α β : Type}

theorem Moves.bind {x : Sim α} {f : α → Sim β} (hx : Moves R x) (hf : ∀ a, Moves R (f a)) :
    Moves R (x >>= f) := by
  intro w
  rw [run_bind_snd]
  exact R.trans (hx w) (hf _ _)

theorem Moves.pure (a : α) : Moves R (Pure.pure a : Sim α) := fun w => R.refl w.net

theorem Moves.ite {c : Prop} [Decidable c] {x y : Sim α} (hx : Moves R x) (hy : Moves R y) :
    Moves R (if c then x else y) := by
  split
  · exact hx
  · exact hy

/-- What follows a read of the world needs to move the network only from that world. -/
theorem Moves.get_bind {f : World → Sim α} (hf : ∀ w, R.rel w.net ((f w).run w).2.net) :
    Moves R (get >>= f) :=
  hf

/-- An action that moves the network along an order moves it along any coarser one. -/
theorem Moves.weaken {S : NetOrder} {x : Sim α} (hx : Moves R x)
    (coarser : ∀ n n', R.rel n n' → S.rel n n') : Moves S x :=
  fun w => coarser _ _ (hx w)

/-- An action that leaves the network as it found it. -/
theorem Moves.of_net {x : Sim α} (same : ∀ w, (x.run w).2.net = w.net) : Moves R x := by
  intro w
  rw [same]
  exact R.refl _

end Rules

/-! ## The primitive actions -/

section Primitives

variable {R : NetOrder}

theorem moves_client : Moves R client := .of_net fun _ => rfl

theorem moves_now : Moves R now := .of_net fun _ => rfl

theorem moves_get : Moves R (get : Sim World) := .of_net fun _ => rfl

theorem moves_sleep (ms : Int) : Moves R (sleep ms) := .of_net fun _ => rfl

theorem moves_modifyClient (f : Client → Client) : Moves R (modifyClient f) := .of_net fun _ => rfl

theorem moves_record (f : Trace → Trace) : Moves R (record f) := .of_net fun _ => rfl

theorem moves_mark (m : BudgetMark) : Moves R (mark m) := .of_net fun _ => rfl

theorem moves_noteConnack (p : Connack) : Moves R (noteConnack p) := .of_net fun _ => rfl

theorem moves_metric (f : Client → MetricStore → MetricStore) : Moves R (metric f) :=
  .of_net fun _ => rfl

theorem moves_remoteAddr : Moves R remoteAddr := .of_net fun _ => rfl

theorem moves_log (l : LogLevel) (msg : String) (attrs : Doc.Fields) : Moves R (log l msg attrs) :=
  .of_net fun w => by rw [log_run]; rfl

theorem moves_emit (e : ClientEvent) : Moves R (emit e) := by
  unfold emit
  exact (moves_client).bind fun _ => .ite (moves_record _) (.pure _)

theorem moves_setState (s : ClientState) : Moves R (setState s) := by
  unfold setState
  refine (moves_client).bind fun c => .ite (.pure _) ?_
  exact (moves_log _ _ _).bind fun _ => (moves_modifyClient _).bind fun _ => moves_metric _

theorem moves_modifyNet {f : Network → Network} (hf : ∀ n, R.rel n (f n)) : Moves R (modifyNet f) :=
  fun w => hf w.net

end Primitives

/-! ## Actions that only grow the network -/

theorem moves_closeLink (x : Nat) : Moves .grows (closeLink x) :=
  moves_modifyNet fun n => Network.grows_closeByClient n x

theorem moves_dropConn (target : Option Nat) : Moves .grows (dropConn target) := by
  unfold dropConn
  refine (moves_client).bind fun c => ?_
  refine .ite ((moves_modifyClient _).bind fun _ => ?_) ?_
  -- either way the link named, or else the current one, is closed if there is one
  all_goals
    split
    · exact moves_closeLink _
    · exact .pure _

theorem moves_writePacket (conn : Nat) (p : Packet) : Moves .grows (writePacket conn p) := by
  intro w
  unfold writePacket
  simp only [StateT.run_bind, client_run, pure_bind]
  cases henc : w.client.codec.encode w.client.sendCap (some p) with
  | error e => exact NetOrder.grows.refl _
  | ok bytes =>
    have grown := Network.grows_write w.net conn bytes
    simp only
    rcases hres : w.net.write conn bytes with ⟨written, r, net⟩
    rw [hres] at grown
    cases written <;> cases r <;> simpa [hres, packetSent] using grown

theorem moves_reply (conn : Nat) (p : Packet) : Moves .grows (reply conn p) := by
  unfold reply
  refine (moves_writePacket _ _).bind fun _ => ?_
  split
  · exact moves_log _ _ _
  · exact .pure _

theorem moves_dispatch {R : NetOrder} (m : Message) : Moves R (dispatch m) := by
  unfold dispatch
  refine (moves_client).bind fun _ => ?_
  split
  exact (moves_record _).bind fun _ => .ite (moves_log _ _ _) (.pure _)

theorem moves_pushAck {R : NetOrder} (a : Ack) : Moves R (pushAck a) := by
  unfold pushAck
  refine (moves_client).bind fun _ => ?_
  split
  exact (moves_modifyClient _).bind fun _ => .ite (moves_log _ _ _) (.pure _)

theorem moves_handlePublish (conn : Nat) (p : Publish) : Moves .grows (handlePublish conn p) := by
  unfold handlePublish
  refine .ite ?_ ((moves_dispatch _).bind fun _ => .ite (moves_reply _ _) (.pure _))
  refine (moves_client).bind fun _ => (moves_now).bind fun _ => ?_
  split
  · exact (moves_modifyClient _).bind fun _ => moves_reply _ _
  · exact (moves_log _ _ _).bind fun _ => moves_reply _ _

theorem moves_handleConnack (p : Connack) : Moves .grows (handleConnack p) := by
  unfold handleConnack
  refine (moves_noteConnack p).bind fun _ => ?_
  refine .ite ((moves_setState _).bind fun _ => (moves_dropConn _).bind fun _ =>
    (moves_log _ _ _).bind fun _ => .pure _) ?_
  exact (moves_now).bind fun _ => (moves_setState _).bind fun _ => (moves_client).bind fun _ =>
    (moves_modifyClient _).bind fun _ => (moves_mark _).bind fun _ => (moves_remoteAddr).bind fun _ =>
    (moves_log _ _ _).bind fun _ => (moves_emit _).bind fun _ => .pure _

/-- Handling a packet writes at most an answer and closes at most the connection a refused
CONNACK came on: it only grows the network. -/
theorem moves_handlePacket (conn : Nat) (p : Packet) : Moves .grows (handlePacket conn p) := by
  unfold handlePacket
  refine (moves_now).bind fun _ => (moves_modifyClient _).bind fun _ => ?_
  cases p
  case connack a => exact (moves_handleConnack a).bind fun _ => .pure _
  case publish q => exact moves_handlePublish _ _
  case pubrel i =>
    refine (moves_client).bind fun _ => ?_
    split
    refine (moves_modifyClient _).bind fun _ => ?_
    split
    · exact (moves_dispatch _).bind fun _ => moves_reply _ _
    · exact moves_reply _ _
  case pingresp => exact .pure _
  all_goals first
    | exact moves_pushAck _
    | exact moves_log _ _ _

/-! ## Actions that keep closed links closed -/

theorem Moves.keepsClosed {α : Type} {x : Sim α} (hx : Moves .grows x) : Moves .keepsClosed x :=
  hx.weaken fun _ _ => Network.Grows.keepsClosed

/-- Replacing the network of the world just read along the order, then going on. -/
theorem Moves.set_bind {R : NetOrder} {α : Type} {w : World} {n : Network} {f : Unit → Sim α}
    (hn : R.rel w.net n) (hf : Moves R (f ())) :
    R.rel w.net (((set { w with net := n } : Sim Unit) >>= f).run w).2.net :=
  R.trans hn (hf { w with net := n })

theorem moves_readPacket (conn : Nat) (timeout : Int) :
    Moves .keepsClosed (readPacket conn timeout) := by
  unfold readPacket
  refine (moves_client).bind fun c => (moves_get).bind fun w => ?_
  split
  · refine .ite (.pure _) ((moves_modifyNet fun n => Network.keepsClosed_consume n _ _).bind fun _ => ?_)
    split
    · exact (moves_metric _).bind fun _ => .pure _
    · exact .ite (.ite (.pure _) (.ite (.pure _) ((moves_sleep _).bind fun _ => .pure _))) (.pure _)
  · exact .pure _

theorem moves_awaitConnack (conn : Nat) : Moves .keepsClosed (awaitConnack conn) := by
  unfold awaitConnack
  refine (moves_client).bind fun _ => (moves_readPacket _ _).bind fun outcome => ?_
  cases outcome with
  | idle => exact (moves_sleep _).bind fun _ => .pure _
  | failed e => exact .pure _
  | packet p =>
    refine (moves_now).bind fun _ => (moves_modifyClient _).bind fun _ => ?_
    cases p
    case connack a => exact (moves_handleConnack a).keepsClosed
    all_goals exact .pure _

theorem moves_connectOnce : Moves .keepsClosed connectOnce := by
  unfold connectOnce
  refine (moves_modifyClient _).bind fun _ => (moves_mark _).bind fun _ => (moves_client).bind fun c =>
    (moves_remoteAddr).bind fun _ => (moves_log _ _ _).bind fun _ => Moves.get_bind fun w => ?_
  split
  next conn net found =>
    have dialed : Network.KeepsClosed w.net net := by
      have grown := Network.grows_dial w.net
      rw [found] at grown
      exact grown.keepsClosed
    refine Moves.set_bind dialed ((moves_record _).bind fun _ => ?_)
    split
    · exact .pure _
    · refine (moves_writePacket _ _).keepsClosed.bind fun r => ?_
      split
      · exact (moves_closeLink _).keepsClosed.bind fun _ => .pure _
      · refine (moves_client).bind fun _ => (moves_modifyClient _).bind fun _ => ?_
        dsimp only
        split
        · exact .ite ((moves_closeLink _).keepsClosed.bind fun _ => .pure _) (.pure _)
        · exact .pure _

theorem moves_connectBlockingLoop (lastErr : Option Failure) (fuel : Nat) :
    Moves .keepsClosed (connectBlockingLoop lastErr fuel) := by
  induction fuel generalizing lastErr with
  | zero => exact .pure _
  | succ fuel ih =>
    unfold connectBlockingLoop
    refine (moves_client).bind fun c => .ite ?_ ?_
    · exact (moves_setState _).bind fun _ => (moves_mark _).bind fun _ =>
        (moves_log _ _ _).bind fun _ => .pure _
    · refine (moves_connectOnce).bind fun r => ?_
      extract_lets retry
      -- a failed attempt logs, waits the reconnect delay and tries again
      have retrying : ∀ err, Moves .keepsClosed (retry err) := fun err =>
        (moves_remoteAddr).bind fun _ => (moves_log _ _ _).bind fun _ => (moves_client).bind fun _ =>
          (moves_sleep _).bind fun _ => ih _
      split
      · exact (Moves.pure _).bind retrying
      · refine (moves_awaitConnack _).bind fun r => ?_
        split
        · exact .pure _
        · exact .ite (.pure _) ((moves_dropConn _).keepsClosed.bind fun _ =>
            .ite (.pure _) ((Moves.pure _).bind retrying))

theorem moves_connectBlocking : Moves .keepsClosed connectBlocking :=
  (moves_client).bind fun _ => moves_connectBlockingLoop _ _

/-- Every run of `x` keeps closed links closed and ends with link `y` closed by the client, if
`y` was there to begin with. -/
structure Shuts (y : Nat) {α : Type} (x : Sim α) : Prop where
  moves : Moves .keepsClosed x
  closes : ∀ w, (w.net.get? y).isSome → (((x.run w).2.net.get? y).any Link.closedByClient = true)

/-- Closing `y`, then keeping closed links closed, shuts `y`. -/
theorem shuts_closeLink_bind {α : Type} {f : Unit → Sim α} (y : Nat)
    (hf : ∀ u, Moves .keepsClosed (f u)) : Shuts y (closeLink y >>= f) where
  moves := (moves_closeLink y).keepsClosed.bind hf
  closes w present := by
    rw [run_bind_snd]
    exact hf _ _ y (Network.closed_closeByClient w.net present)

/-- What only grows the network, then shuts `y`, shuts `y`. -/
theorem Shuts.grows_bind {y : Nat} {α β : Type} {x : Sim α} {f : α → Sim β} (hx : Moves .grows x)
    (hf : ∀ a, Shuts y (f a)) : Shuts y (x >>= f) where
  moves := hx.keepsClosed.bind fun a => (hf a).moves
  closes w present := by
    rw [run_bind_snd]
    exact (hf _).closes _ ((hx w).present present)

theorem Shuts.ite {y : Nat} {α : Type} {c : Prop} [Decidable c] {x x' : Sim α} (hx : Shuts y x)
    (hx' : Shuts y x') : Shuts y (if c then x else x') := by
  split
  · exact hx
  · exact hx'

/-- Reacting to the loss of connection `conn` keeps closed links closed, and if `conn` was the
current connection, it ends closed by the client, whatever the reconnect that follows does. -/
theorem handleFin_net (conn : Nat) (w : World) :
    Network.KeepsClosed w.net ((handleFin conn).run w).2.net ∧
    (w.client.conn = some conn → (w.net.get? conn).isSome →
      (((handleFin conn).run w).2.net.get? conn).any Link.closedByClient = true) := by
  unfold handleFin
  rw [client_bind_run]
  split
  · rename_i other
    exact ⟨Network.KeepsClosed.refl _, fun current _ => by simp [current] at other⟩
  · suffices lost : Shuts conn _ from ⟨lost.moves w, fun _ present => lost.closes w present⟩
    refine Shuts.grows_bind (moves_modifyClient _) fun _ => ?_
    extract_lets linked closing
    -- after closing the connection, a client that was linked reconnects at once
    have closes : ∀ u, Shuts conn (closing u) := fun _ => shuts_closeLink_bind conn fun _ => by
      refine .ite (moves_client.bind fun _ => .pure _) ?_
      refine (moves_remoteAddr).bind fun _ => (moves_log _ _ _).bind fun _ => (moves_client).bind fun _ =>
        (moves_sleep _).bind fun _ => (moves_metric _).bind fun _ => (moves_connectBlocking).bind fun r => ?_
      split
      · exact .pure _
      · exact .ite ((moves_setState _).bind fun _ => (moves_now).bind fun _ =>
          (moves_modifyClient _).bind fun _ => .pure _)
          ((moves_log _ _ _).bind fun _ => (moves_client).bind fun _ => .pure _)
    exact .ite (Shuts.grows_bind (moves_setState _) closes) (closes ())

theorem moves_handleFin (conn : Nat) : Moves .keepsClosed (handleFin conn) :=
  fun w => (handleFin_net conn w).1

/-- A turn of the reader reads, handles what it read, and reacts to a lost connection: closed
links stay closed. -/
theorem moves_readerTurn : Moves .keepsClosed readerTurn := by
  unfold readerTurn
  refine (moves_client).bind fun _ => .ite (.pure _) (moves_get.bind fun _ => ?_)
  dsimp only
  split
  · exact (moves_modifyClient _).bind fun _ => .pure _
  · refine (moves_modifyClient _).bind fun _ => (moves_readPacket _ _).bind fun outcome => ?_
    cases outcome with
    | idle => exact .pure _
    | packet p =>
      exact (moves_handlePacket _ p).keepsClosed.bind fun _ => (moves_client).bind fun _ =>
        .ite ((moves_modifyClient _).bind fun _ => .pure _) (.pure _)
    | failed e =>
      refine .ite ((moves_log _ _ _).bind fun _ => .pure _)
        (.ite ((moves_log _ _ _).bind fun _ => .pure _) ?_)
      exact (moves_log _ _ _).bind fun _ => (moves_modifyClient _).bind fun _ =>
        (moves_handleFin _).bind fun _ => .ite ((moves_modifyClient _).bind fun _ => .pure _) (.pure _)

end Sim

end Mqtt
