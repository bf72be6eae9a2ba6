import Mathlib.Tactic.Linarith
import Mathlib.Tactic.Ring
import Mqtt.Session.KeepAlive
/-! # Noticing a dead link

A linked client whose broker has gone silent ticks its keep-alive at least once per tick
interval `T`; every ping the check asks for goes out and is noted at once. `KeepAlive.run` plays
such a run, with the client's other packets (`Uplink.sent`) between the ticks.

Without other packets the run goes through two phases. Until the idle deadline the check may
ping for half the announced keep-alive but never counts a miss (`tick_quiet`); the first tick at
or after the deadline pings (`tick_quiet_due`). From then on every ping stays unanswered
(`Unanswered`): a tick within the send timeout of the last ping does nothing, and the first tick
after it counts a miss and pings again or, at `max` misses, expires the link
(`tick_unanswered`). A half-keep-alive ping would renew the ping first, but when the announced
keep-alive is zero or at least twice `sendTimeout + T` it never comes before the miss is counted.
So the link expires by `t0 + interval + T + max * (sendTimeout + T)` (`deadLink_expires`).

The detector measures the age of the newest packet the client sent, not of the oldest one left
unanswered: a client that sends something before each tick never sees the link expire, however
long the broker stays silent (`run_sentEachTick_noExpiry`).
-/

namespace Mqtt

namespace KeepAlive

/-- What the keep-alive of a linked client learns while the broker is silent: a timer tick at
`now`, or a packet other than PINGREQ that the client sent at `now`. -/
inductive Uplink where
  | tick (now : Int)
  | sent (now : Int)
  deriving DecidableEq, Repr

/-- One timer tick: the check, and the PINGREQ it asks for noted as a ping at the same time. -/
def tick (k : KeepAlive) (now : Int) : KeepAliveAction × KeepAlive :=
  match k.check now with
  | (.ping, k') => (.ping, k'.pinged now)
  | r => r

/-- The actions of the ticks of a run, in order. -/
def run : KeepAlive → List Uplink → List KeepAliveAction
  | _, [] => []
  | k, .tick now :: rest => (k.tick now).1 :: run (k.tick now).2 rest
  | k, .sent now :: rest => run (k.sent now) rest

/-- Tick times after `prev`: each no earlier than the one before and at most `T` after it. -/
def Paced (T : Int) : Int → List Int → Prop
  | _, [] => True
  | prev, now :: rest => prev ≤ now ∧ now ≤ prev + T ∧ Paced T now rest

/-! ## What a tick changes -/

theorem tick_of_ping {k k' : KeepAlive} {now : Int} (h : k.check now = (.ping, k')) :
    k.tick now = (.ping, k'.pinged now) := by
  simp [tick, h]

theorem tick_of_not_ping {k : KeepAlive} {now : Int} (h : (k.check now).1 ≠ .ping) :
    k.tick now = k.check now := by
  unfold tick
  split
  · next k' hk => simp [hk] at h
  · rfl

theorem check_settings (k : KeepAlive) (now : Int) :
    (k.check now).2.interval = k.interval ∧ (k.check now).2.connectKeepAlive = k.connectKeepAlive ∧
      (k.check now).2.sendTimeout = k.sendTimeout ∧ (k.check now).2.max = k.max ∧
      (k.check now).2.nextUplink = k.nextUplink := by
  simp only [check]
  split_ifs <;> exact ⟨rfl, rfl, rfl, rfl, rfl⟩

/-- A tick keeps the settings and the idle deadline. -/
theorem tick_settings (k : KeepAlive) (now : Int) :
    (k.tick now).2.interval = k.interval ∧ (k.tick now).2.connectKeepAlive = k.connectKeepAlive ∧
      (k.tick now).2.sendTimeout = k.sendTimeout ∧ (k.tick now).2.max = k.max ∧
      (k.tick now).2.nextUplink = k.nextUplink := by
  by_cases hp : (k.check now).1 = .ping
  · rcases hc : k.check now with ⟨a, k'⟩
    simp only [hc] at hp
    subst hp
    have := check_settings k now
    rw [hc] at this
    rw [tick_of_ping hc]
    exact this
  · rw [tick_of_not_ping hp]
    exact check_settings k now

/-! ## Before the idle deadline -/

/-- The idle deadline `n` has not come at the last tick, at `prev`; the client sent nothing
after `prev`, and no miss is counted. -/
structure Quiet (k : KeepAlive) (n prev : Int) : Prop where
  deadline : k.nextUplink = some n
  counted : k.count = 0
  early : prev < n
  lastUplink : ¬ Instant.before (some prev) k.lastUplink

/-- Nothing sent since `prev`, before the deadline, is before the deadline. -/
theorem Quiet.lastUplink_before {k : KeepAlive} {n prev : Int} (h : Quiet k n prev) :
    Instant.before k.lastUplink (some n) = true := by
  have sent := h.lastUplink
  have early := h.early
  cases hu : k.lastUplink with
  | none => rfl
  | some u =>
    simp only [hu, Instant.before, decide_eq_true_eq, not_lt] at sent ⊢
    omega

/-- Before the deadline a check pings for half the announced keep-alive or does nothing. -/
theorem check_quiet {k : KeepAlive} {n prev now : Int} (h : Quiet k n prev) (soon : now < n) :
    k.check now = if k.halfKeepAlivePassed now then (.ping, k) else (.idle, k) := by
  have up : Instant.before k.lastUplink k.nextUplink = true := h.deadline ▸ h.lastUplink_before
  have notDue : Instant.before (some now) k.nextUplink = true := by
    simp [h.deadline, Instant.before, soon]
  simp [check, notDue, up]

/-- Before the deadline a tick may ping, but counts no miss. -/
theorem tick_quiet {k : KeepAlive} {n prev now : Int} (h : Quiet k n prev) (hnow : prev ≤ now)
    (soon : now < n) : (k.tick now).1 ≠ .expired ∧ Quiet (k.tick now).2 n now := by
  have checked := check_quiet h soon
  by_cases half : k.halfKeepAlivePassed now = true
  · -- the half-keep-alive ping goes out before the deadline
    rw [if_pos half] at checked
    rw [tick_of_ping checked]
    exact ⟨nofun, h.deadline, h.counted, soon, by simp [pinged, Instant.before]⟩
  · rw [if_neg half] at checked
    rw [tick_of_not_ping (by rw [checked]; nofun), checked]
    refine ⟨nofun, h.deadline, h.counted, soon, fun later => h.lastUplink ?_⟩
    cases hu : k.lastUplink with
    | none => simp [hu, Instant.before] at later
    | some u =>
      simp only [hu, Instant.before, decide_eq_true_eq] at later ⊢
      omega

/-- The first tick at or after the deadline pings. -/
theorem tick_quiet_due {k : KeepAlive} {n prev now : Int} (h : Quiet k n prev) (due : n ≤ now) :
    k.tick now = (.ping, k.pinged now) := by
  have up := h.lastUplink_before
  have passed : Instant.before (some now) (some n) = false := by
    simp [Instant.before]
    omega
  rw [← h.deadline] at up passed
  exact tick_of_ping (by simp [check, passed, up])

/-! ## After the idle deadline -/

/-- A ping went out at `p`, after the idle deadline, and nothing has been sent since; `c`
misses are counted, fewer than `max`; the last tick, at `prev`, came within the send timeout of
the ping. -/
structure Unanswered (k : KeepAlive) (p c prev : Int) : Prop where
  sent : k.lastUplink = some p
  pinged : k.lastPing = some p
  due : ∃ n, k.nextUplink = some n ∧ n ≤ p
  counted : k.count = c
  below : c < k.max
  within : prev ≤ p + k.sendTimeout

section Unanswered

variable {k : KeepAlive} {T p c prev now : Int}

/-- After the deadline only the unanswered ping counts: the check does nothing within the send
timeout of the ping and counts a miss after it. A half-keep-alive ping would come first, but an
announced keep-alive of zero or of at least twice `sendTimeout + T` keeps it away as long as the
ticks come within `T` of each other. -/
theorem check_unanswered (h : Unanswered k p c prev)
    (hK : k.connectKeepAlive = 0 ∨ 2 * (k.sendTimeout + T) ≤ k.connectKeepAlive)
    (late : now ≤ prev + T) :
    k.check now = if p + k.sendTimeout < now then
      (if k.max ≤ c + 1 then .expired else .ping, { k with count := c + 1 }) else (.idle, k) := by
  obtain ⟨n, deadline, passed⟩ := h.due
  have within := h.within
  have noHalf : k.halfKeepAlivePassed now = false := by
    -- the ping at `p` is younger than half the announced keep-alive
    simp only [halfKeepAlivePassed, h.pinged, Bool.and_eq_false_iff, decide_eq_false_iff_not]
    omega
  have idleOver : ¬ p < n := not_lt.mpr passed
  simp [check, noHalf, h.sent, deadline, Instant.before, Instant.add, idleOver, h.counted]

theorem tick_unanswered_idle (h : Unanswered k p c prev)
    (hK : k.connectKeepAlive = 0 ∨ 2 * (k.sendTimeout + T) ≤ k.connectKeepAlive)
    (late : now ≤ prev + T) (young : now ≤ p + k.sendTimeout) :
    k.tick now = (.idle, k) ∧ Unanswered k p c now := by
  have checked := check_unanswered h hK late
  rw [if_neg (by omega)] at checked
  rw [tick_of_not_ping (by rw [checked]; nofun), checked]
  exact ⟨rfl, { h with within := young }⟩

theorem tick_unanswered_expired (h : Unanswered k p c prev)
    (hK : k.connectKeepAlive = 0 ∨ 2 * (k.sendTimeout + T) ≤ k.connectKeepAlive)
    (late : now ≤ prev + T) (old : p + k.sendTimeout < now) (last : k.max ≤ c + 1) :
    (k.tick now).1 = .expired := by
  have checked := check_unanswered h hK late
  rw [if_pos old, if_pos last] at checked
  rw [tick_of_not_ping (by rw [checked]; nofun), checked]

theorem tick_unanswered_ping (h : Unanswered k p c prev)
    (hK : k.connectKeepAlive = 0 ∨ 2 * (k.sendTimeout + T) ≤ k.connectKeepAlive)
    (hS : 0 < k.sendTimeout) (late : now ≤ prev + T) (old : p + k.sendTimeout < now)
    (more : c + 1 < k.max) :
    (k.tick now).1 = .ping ∧ Unanswered (k.tick now).2 now (c + 1) now := by
  have checked := check_unanswered h hK late
  rw [if_pos old, if_neg (by omega)] at checked
  obtain ⟨n, deadline, passed⟩ := h.due
  rw [tick_of_ping checked]
  exact ⟨rfl, rfl, rfl, ⟨n, deadline, by omega⟩, rfl, more, by simp only [pinged]; omega⟩

end Unanswered

/-! ## Runs without other packets -/

section Runs

variable {T : Int}

/-- Once a ping is left unanswered, the link expires before `max - c` more rounds of the send
timeout and one tick interval have passed. By induction on the tick times, carrying
`Unanswered` and the deadline, which a counted miss moves by at most one round. -/
theorem run_unanswered (hT : 0 < T) (times : List Int) (k : KeepAlive) (p c prev : Int)
    (h : Unanswered k p c prev) (hS : 0 < k.sendTimeout)
    (hK : k.connectKeepAlive = 0 ∨ 2 * (k.sendTimeout + T) ≤ k.connectKeepAlive)
    (paced : Paced T prev times)
    (long : ∃ t ∈ times, p + (k.max - c) * (k.sendTimeout + T) < t) :
    KeepAliveAction.expired ∈ k.run (times.map .tick) := by
  induction times generalizing k p c prev with
  | nil => simp at long
  | cons now rest ih =>
    obtain ⟨-, late, paced⟩ := paced
    obtain ⟨t, mem, after⟩ := long
    -- one round of the send timeout and a tick interval fits in what remains
    have round : (k.max - c) * (k.sendTimeout + T) =
        (k.max - (c + 1)) * (k.sendTimeout + T) + (k.sendTimeout + T) := by ring
    have rest_nonneg : 0 ≤ (k.max - (c + 1)) * (k.sendTimeout + T) :=
      mul_nonneg (by have := h.below; omega) (by omega)
    have within := h.within
    have beyond : now < t ∨ t ∈ rest → t ∈ rest := by
      rintro (early | later)
      · cases List.mem_cons.mp mem with
        | inl same => subst same; linarith
        | inr later => exact later
      · exact later
    simp only [List.map_cons, run, List.mem_cons]
    by_cases young : now ≤ p + k.sendTimeout
    · -- the tick does nothing: the same ping stays unanswered
      obtain ⟨ticked, h'⟩ := tick_unanswered_idle h hK late young
      rw [ticked]
      refine .inr (ih k p c now h' hS hK paced ⟨t, beyond (.inl (by linarith)), after⟩)
    · by_cases last : k.max ≤ c + 1
      · exact .inl (tick_unanswered_expired h hK late (by omega) last).symm
      · -- a miss is counted and the link pinged again
        obtain ⟨pinged, h'⟩ := tick_unanswered_ping h hK hS late (by omega) (by omega)
        obtain ⟨-, announced, sendTimeout, max, -⟩ := tick_settings k now
        refine .inr (ih _ now (c + 1) now h' (by omega) (by rw [sendTimeout, announced]; exact hK)
          paced ⟨t, beyond (.inl (by linarith)), ?_⟩)
        rw [sendTimeout, max]
        linarith

/-- Before the idle deadline `n` the link is sure to expire by `n + T + max * (sendTimeout + T)`:
the first tick at or after the deadline, within `T` of it, leaves a ping unanswered. By
induction on the tick times, carrying `Quiet` until then. -/
theorem run_quiet (hT : 0 < T) (times : List Int) (k : KeepAlive) (n prev : Int)
    (h : Quiet k n prev) (hS : 0 < k.sendTimeout) (hM : 1 ≤ k.max)
    (hK : k.connectKeepAlive = 0 ∨ 2 * (k.sendTimeout + T) ≤ k.connectKeepAlive)
    (paced : Paced T prev times)
    (long : ∃ t ∈ times, n + T + k.max * (k.sendTimeout + T) < t) :
    KeepAliveAction.expired ∈ k.run (times.map .tick) := by
  induction times generalizing k prev with
  | nil => simp at long
  | cons now rest ih =>
    obtain ⟨early, late, paced⟩ := paced
    obtain ⟨t, mem, after⟩ := long
    have quietEarly := h.early
    have rounds : 0 ≤ k.max * (k.sendTimeout + T) := mul_nonneg (by omega) (by omega)
    -- the tick at `now` is too early to be the one the deadline waits for
    have later : t ∈ rest := by
      cases List.mem_cons.mp mem with
      | inl same => subst same; linarith
      | inr later => exact later
    simp only [List.map_cons, run, List.mem_cons]
    by_cases due : n ≤ now
    · -- the deadline has come: the ping goes out and stays unanswered
      rw [tick_quiet_due h due]
      refine .inr (run_unanswered hT rest (k.pinged now) now 0 now ?_ hS hK paced ⟨t, later, ?_⟩)
      · exact ⟨rfl, rfl, ⟨n, h.deadline, due⟩, h.counted, by simp only [pinged]; omega,
          by simp only [pinged]; omega⟩
      · simp only [pinged, sub_zero]
        linarith
    · obtain ⟨notExpired, h'⟩ := tick_quiet h early (by omega)
      obtain ⟨-, announced, sendTimeout, max, -⟩ := tick_settings k now
      refine .inr (ih _ now h' (by omega) (by omega) (by rw [sendTimeout, announced]; exact hK) paced
        ⟨t, later, by rw [sendTimeout, max]; exact after⟩)

end Runs

/-- A dead link is noticed. Take a keep-alive with a positive interval and send timeout, at
least one allowed miss, and an announced keep-alive that is zero or at least twice the send
timeout plus the tick interval `T`. Start it at `t0` with `reset`, or with `received` when
nothing was sent after `t0`; tick it at times that never go back and are at most `T` apart, the
first within `T` of `t0`, with nothing sent and nothing received. Once the ticks go past
`t0 + interval + T + max * (sendTimeout + T)`, one of them has expired the link. -/
theorem deadLink_expires (k : KeepAlive) (t0 T : Int) (start : KeepAlive)
    (started : start = k.reset t0 ∨ (start = k.received t0 ∧ ¬ Instant.before (some t0) k.lastUplink))
    (hI : 0 < k.interval) (hS : 0 < k.sendTimeout) (hM : 1 ≤ k.max) (hT : 0 < T)
    (hK : k.connectKeepAlive = 0 ∨ 2 * (k.sendTimeout + T) ≤ k.connectKeepAlive)
    (times : List Int) (paced : Paced T t0 times)
    (long : ∃ t ∈ times, t0 + k.interval + T + k.max * (k.sendTimeout + T) < t) :
    KeepAliveAction.expired ∈ start.run (times.map .tick) := by
  -- either start is quiet until `t0 + interval`, with the settings of `k`
  have quiet : Quiet start (t0 + k.interval) t0 := by
    rcases started with rfl | ⟨rfl, nothingLater⟩
    · exact ⟨rfl, rfl, by omega, by simp [reset, Instant.before]⟩
    · exact ⟨rfl, rfl, by omega, nothingLater⟩
  have settings : start.sendTimeout = k.sendTimeout ∧ start.max = k.max ∧
      start.connectKeepAlive = k.connectKeepAlive := by
    rcases started with rfl | ⟨rfl, -⟩ <;> exact ⟨rfl, rfl, rfl⟩
  obtain ⟨sendTimeout, max, announced⟩ := settings
  exact run_quiet hT times start (t0 + k.interval) t0 quiet (sendTimeout ▸ hS) (max ▸ hM)
    (by rw [sendTimeout, announced]; exact hK) paced (by rw [sendTimeout, max]; exact long)

/-- With the settings of the source's tests, ticking every ten seconds after a reset at zero,
the link has expired by the ninth tick. -/
theorem deadLink_expires_testSettings :
    let k : KeepAlive := { interval := 30000, connectKeepAlive := 60000, sendTimeout := 4000, max := 3 }
    let times : List Int := [10000, 20000, 30000, 40000, 50000, 60000, 70000, 80000, 90000]
    (k.reset 0 = k.reset 0 ∨ (k.reset 0 = k.received 0 ∧ ¬ Instant.before (some 0) k.lastUplink)) ∧
      0 < k.interval ∧ 0 < k.sendTimeout ∧ 1 ≤ k.max ∧ (0 : Int) < 10000 ∧
      (k.connectKeepAlive = 0 ∨ 2 * (k.sendTimeout + 10000) ≤ k.connectKeepAlive) ∧
      Paced 10000 0 times ∧ (∃ t ∈ times, 0 + k.interval + 10000 + k.max * (k.sendTimeout + 10000) < t) ∧
      KeepAliveAction.expired ∈ (k.reset 0).run (times.map .tick) :=
  ⟨.inl rfl, by decide, by decide, by decide, by decide, by decide, by simp [Paced],
    ⟨90000, by simp, by decide⟩,
    deadLink_expires _ 0 10000 _ (.inl rfl) (by decide) (by decide) (by decide) (by decide)
      (by decide) _ (by simp [Paced]) ⟨90000, by simp, by decide⟩⟩

/-! ## Other packets keep the link alive -/

/-- A check right after a packet was sent never expires the link: the newest uplink is younger
than any positive send timeout. -/
theorem check_after_sent_ne_expired (k : KeepAlive) (now : Int) (hS : 0 < k.sendTimeout) :
    ((k.sent now).check now).1 ≠ .expired := by
  have fresh :
      Instant.before ((k.sent now).lastUplink.add (k.sent now).sendTimeout) (some now) = false := by
    simp [sent, Instant.add, Instant.before]
    omega
  simp only [check, fresh, Bool.and_false, Bool.false_eq_true, if_false]
  split <;> nofun

/-- A client that sends a packet before each tick never sees its link expire, whatever the
broker does not answer: the detector measures the age of the newest packet sent. -/
theorem run_sentEachTick_noExpiry (k : KeepAlive) (hS : 0 < k.sendTimeout) (times : List Int) :
    KeepAliveAction.expired ∉ k.run (times.flatMap fun t => [.sent t, .tick t]) := by
  induction times generalizing k with
  | nil => simp [run]
  | cons now rest ih =>
    have notExpired : ((k.sent now).tick now).1 ≠ .expired := by
      by_cases hp : ((k.sent now).check now).1 = .ping
      · rcases hc : (k.sent now).check now with ⟨a, k'⟩
        simp only [hc] at hp
        subst hp
        rw [tick_of_ping hc]
        nofun
      · rw [tick_of_not_ping hp]
        exact check_after_sent_ne_expired k now hS
    have kept : 0 < ((k.sent now).tick now).2.sendTimeout := by
      rw [(tick_settings _ now).2.2.1]
      exact hS
    simp only [List.flatMap_cons, List.cons_append, List.nil_append, run, List.mem_cons, not_or]
    exact ⟨fun same => notExpired same.symm, ih _ kept⟩

/-- Ticks `T` apart after `t`, `n` of them. -/
def ticksEvery (T : Int) : Int → Nat → List Int
  | _, 0 => []
  | t, n + 1 => (t + T) :: ticksEvery T (t + T) n

theorem paced_ticksEvery {T : Int} (hT : 0 ≤ T) (t : Int) (n : Nat) : Paced T t (ticksEvery T t n) := by
  induction n generalizing t with
  | zero => trivial
  | succ n ih => exact ⟨by omega, le_refl _, ih (t + T)⟩

theorem last_mem_ticksEvery (T t : Int) (n : Nat) : t + T * ((n : Int) + 1) ∈ ticksEvery T t (n + 1) := by
  induction n generalizing t with
  | zero => simp [ticksEvery]
  | succ n ih =>
    have := ih (t + T)
    simp only [ticksEvery, List.mem_cons] at this ⊢
    refine .inr ?_
    have same : t + T * (((n + 1 : Nat) : Int) + 1) = t + T + T * ((n : Int) + 1) := by push_cast; ring
    rw [same]
    exact this

/-- No deadline works for every run: with the settings of the source's tests and a tick every
second, a client that sends a packet before each tick keeps its link alive past any time. -/
theorem deadLink_sentEachTick :
    ¬ ∃ D : Int, ∀ times : List Int, Paced 1000 0 times → (∃ t ∈ times, D < t) →
      KeepAliveAction.expired ∈
        (({ interval := 30000, connectKeepAlive := 60000, sendTimeout := 4000, max := 3 } :
          KeepAlive).reset 0).run (times.flatMap fun t => [.sent t, .tick t]) := by
  rintro ⟨D, always⟩
  have expired := always (ticksEvery 1000 0 (D.toNat + 1)) (paced_ticksEvery (by decide) 0 _)
    ⟨_, last_mem_ticksEvery 1000 0 D.toNat, by omega⟩
  exact run_sentEachTick_noExpiry _ (by decide) _ expired

end KeepAlive

end Mqtt
