import Mqtt.Proofs.HeldMessages
/-! # The PUBREC schedule of a held message

A QoS 2 message held by the tracker has the PUBREC for it sent again on a schedule of its own.
Its slot starts with the tracker's resend count and a deadline one interval after the message
was tracked. A resend cycle at or after the deadline uses up one resend and moves the deadline
to one interval after the cycle; the cycle that comes due with no resend left frees the slot and
drops the message. `pubrecSchedule` writes that schedule down over the times of the cycles.

A resend cycle treats every slot on its own (`retrySlots_slots_eq`, `retrySlots_resend`,
`retrySlots_dropped`), so what happens to one message depends on its slot and the time of the
cycle alone. `Paces` is the state of that slot; each call the message is left to keeps it, or
ends it as the schedule says (`Paces.retry_wait`, `Paces.retry_resend`, `Paces.retry_drop`,
`Paces.track`, `Paces.release`), and `Paces.run` follows it over a whole run. `pubrec_schedule`
is the result for a message tracked on a tracker created with a positive resend count and a
positive interval.
-/

namespace Mqtt

namespace ExactlyOnce

/-! ## A resend cycle, slot by slot -/

/-- Whether a slot's resend is due at `now` with a resend left: the cycle lists its identifier. -/
def resendsAt (now : Int) (s : PubrecSlot) : Bool :=
  !(s.free || decide (now < s.deadline)) && !decide (s.retries - 1 < 0)

/-- A slot after a resend cycle at `now`: as it was when free or not yet due, freed when due with
no resend left, and else with one resend fewer and the next due `iv` after `now`. -/
def cycledSlot (iv now : Int) (s : PubrecSlot) : PubrecSlot :=
  if s.free || now < s.deadline then s
  else if s.retries - 1 < 0 then PubrecSlot.vacant
  else { s with retries := s.retries - 1, deadline := now + iv }

theorem expires_eq_true {now : Int} {s : PubrecSlot} :
    expires now s = true ↔ s.free = false ∧ s.deadline ≤ now ∧ s.retries < 1 := by
  simp only [expires, Bool.and_eq_true, Bool.not_eq_true', Bool.or_eq_false_iff,
    decide_eq_true_eq, decide_eq_false_iff_not]
  constructor
  · rintro ⟨⟨occ, due⟩, last⟩
    exact ⟨occ, by omega, by omega⟩
  · rintro ⟨occ, due, last⟩
    exact ⟨⟨occ, by omega⟩, by omega⟩

theorem resendsAt_eq_true {now : Int} {s : PubrecSlot} :
    resendsAt now s = true ↔ s.free = false ∧ s.deadline ≤ now ∧ 1 ≤ s.retries := by
  simp only [resendsAt, Bool.and_eq_true, Bool.not_eq_true', Bool.or_eq_false_iff,
    decide_eq_false_iff_not]
  constructor
  · rintro ⟨⟨occ, due⟩, left⟩
    exact ⟨occ, by omega, by omega⟩
  · rintro ⟨occ, due, left⟩
    exact ⟨⟨occ, by omega⟩, by omega⟩

theorem occupied_of_resendsAt {now : Int} {s : PubrecSlot} (h : resendsAt now s = true) :
    s.free = false :=
  (resendsAt_eq_true.1 h).1

section Cycle

variable (iv now : Int)

/-- The cycle turns each slot into its cycled form, whatever the other slots and the map hold. -/
theorem retrySlots_slots_eq (l : List PubrecSlot) (P : List (UInt16 × Message)) :
    (retrySlots iv now l P).2.1 = l.map (cycledSlot iv now) := by
  induction l generalizing P with
  | nil => rfl
  | cons s rest ih =>
    simp only [retrySlots, List.map_cons, cycledSlot]
    split
    · simp [ih]
    · split <;> simp [ih]

/-- The cycle lists for a resend the identifiers of the slots due with a resend left, in slot
order. -/
theorem retrySlots_resend (l : List PubrecSlot) (P : List (UInt16 × Message)) :
    (retrySlots iv now l P).1.resend = (l.filter (resendsAt now)).map (·.packetId) := by
  induction l generalizing P with
  | nil => rfl
  | cons s rest ih =>
    simp only [retrySlots]
    split
    · rename_i hkeep
      have hs : resendsAt now s = false := by simp [resendsAt, hkeep]
      simp [ih, hs]
    · split
      · rename_i hdue hlast
        have hs : resendsAt now s = false := by simp [resendsAt, hlast]
        simp [ih, hs]
      · rename_i hdue hlast
        have hs : resendsAt now s = true := by simp_all [resendsAt]
        simp [ih, hs]

/-- When the expiring slots pace distinct identifiers, the cycle drops the messages held under
them, in slot order. -/
theorem retrySlots_dropped (l : List PubrecSlot) (P : List (UInt16 × Message))
    (hn : ((l.filter (expires now)).map (·.packetId)).Nodup) :
    (retrySlots iv now l P).1.dropped =
      (l.filter (expires now)).filterMap fun s => (P.find? (·.1 == s.packetId)).map (·.2) := by
  induction l generalizing P with
  | nil => rfl
  | cons s rest ih =>
    simp only [retrySlots]
    split
    · rename_i hkeep
      have hs : expires now s = false := by simp [expires, hkeep]
      simp only [List.filter_cons, hs, Bool.false_eq_true, if_false] at hn ⊢
      exact ih P hn
    · split
      · -- the expiring slot's message goes first; the slots after it look the map up without
        -- its entries, which changes nothing for their own identifiers
        rename_i hdue hlast
        have hs : expires now s = true := by simp_all [expires]
        rw [List.filter_cons_of_pos hs, List.map_cons, List.nodup_cons] at hn
        rw [List.filter_cons_of_pos hs, List.filterMap_cons, ih _ hn.2]
        have hrest : ((rest.filter (expires now)).filterMap fun s' =>
              ((P.filter (·.1 != s.packetId)).find? (·.1 == s'.packetId)).map (·.2)) =
            (rest.filter (expires now)).filterMap fun s' =>
              (P.find? (·.1 == s'.packetId)).map (·.2) := by
          apply List.filterMap_congr
          intro s' hs'
          have hne : (s'.packetId != s.packetId) = true := by
            have : s'.packetId ≠ s.packetId := fun he => hn.1 (he ▸ List.mem_map_of_mem hs')
            simpa using this
          rw [find?_filter_key P (· != s.packetId) s'.packetId, if_pos hne]
        rw [hrest]
        cases (P.find? (·.1 == s.packetId)).map (·.2) <;> rfl
      · rename_i hdue hlast
        have hs : expires now s = false := by simp_all [expires]
        simp only [List.filter_cons, hs, Bool.false_eq_true, if_false] at hn ⊢
        exact ih P hn

end Cycle

/-! ## What a cycle does to one identifier -/

section Identifier

variable {t : ExactlyOnce} {i : UInt16} {now : Int}

/-- Two occupied slots of a consistent tracker that pace one identifier are one slot. -/
theorem Consistent.slot_eq (hc : t.Consistent) {s s' : PubrecSlot} (hs : s ∈ t.slots)
    (hs' : s' ∈ t.slots) (occ : s.free = false) (occ' : s'.free = false)
    (same : s.packetId = s'.packetId) : s = s' :=
  List.inj_on_of_nodup_map hc.paced_nodup (List.mem_filter.2 ⟨hs, by simp [occ]⟩)
    (List.mem_filter.2 ⟨hs', by simp [occ']⟩) same

/-- The identifiers of the slots of a consistent tracker that pass a test of occupied slots are
distinct. -/
theorem Consistent.nodup_of_occupied (hc : t.Consistent) (q : PubrecSlot → Bool)
    (hq : ∀ s, q s = true → s.free = false) : ((t.slots.filter q).map (·.packetId)).Nodup := by
  refine List.Nodup.sublist (List.Sublist.map _ (List.monotone_filter_right _ ?_)) hc.paced_nodup
  intro s hs
  simp [hq s hs]

/-- A consistent tracker lists an identifier for a resend at most once in a cycle. -/
theorem Consistent.resend_nodup (hc : t.Consistent) (now : Int) :
    (t.retryCycle now).1.resend.Nodup := by
  rw [retryCycle_eq, retrySlots_resend]
  exact hc.nodup_of_occupied _ fun _ => occupied_of_resendsAt

/-- The identifiers a cycle of a consistent tracker drops are distinct. -/
theorem Consistent.expired_nodup (hc : t.Consistent) (now : Int) :
    ((t.slots.filter (expires now)).map (·.packetId)).Nodup :=
  hc.nodup_of_occupied _ fun _ => occupied_of_expires

/-- After a cycle a lookup finds what it found before, unless an expiring slot paced the
identifier. -/
theorem retryCycle_lookup (t : ExactlyOnce) (now : Int) (i : UInt16) :
    (t.retryCycle now).2.lookup i =
      if ((t.slots.filter (expires now)).map (·.packetId)).contains i then none else t.lookup i := by
  have key := find?_filter_key t.pending
    (fun j => !((t.slots.filter (expires now)).map (·.packetId)).contains j) i
  rw [retryCycle_eq]
  simp only [lookup]
  rw [retrySlots_pending, key]
  cases ((t.slots.filter (expires now)).map (·.packetId)).contains i <;> rfl

/-- An identifier held before a cycle and not after it was paced by an expiring slot, and the
cycle returns its message among the dropped. -/
theorem Consistent.mem_dropped (hc : t.Consistent) {m : Message} (held : t.lookup i = some m)
    (gone : (t.retryCycle now).2.lookup i = none) : m ∈ (t.retryCycle now).1.dropped := by
  rw [retryCycle_lookup, held] at gone
  have hmem : i ∈ (t.slots.filter (expires now)).map (·.packetId) := by
    by_contra hnot
    simp [hnot] at gone
  obtain ⟨s, hs, rfl⟩ := List.mem_map.1 hmem
  rw [retryCycle_eq, retrySlots_dropped _ _ _ _ (hc.expired_nodup now), List.mem_filterMap]
  exact ⟨s, hs, by simpa [lookup] using held⟩

/-- An identifier listed for a resend stays held through the cycle. -/
theorem Consistent.held_of_resend (hc : t.Consistent) (h : i ∈ (t.retryCycle now).1.resend) :
    t.contains i = true ∧ (t.retryCycle now).2.contains i = true := by
  rw [retryCycle_eq, retrySlots_resend] at h
  obtain ⟨s, hs, rfl⟩ := List.mem_map.1 h
  rw [List.mem_filter] at hs
  have occ := occupied_of_resendsAt hs.2
  have paced : s.packetId ∈ pacedIds t.slots :=
    List.mem_map_of_mem (List.mem_filter.2 ⟨hs.1, by simp [occ]⟩)
  -- the slot is occupied after the cycle too, so the identifier stays paced and held
  have kept : cycledSlot t.interval now s ∈ (t.retryCycle now).2.slots := by
    rw [retryCycle_eq]
    exact (retrySlots_slots_eq _ _ _ _).symm ▸ List.mem_map_of_mem hs.1
  have hcyc : cycledSlot t.interval now s =
      { s with retries := s.retries - 1, deadline := now + t.interval } := by
    simp only [resendsAt, Bool.and_eq_true, Bool.not_eq_true', Bool.or_eq_false_iff,
      decide_eq_false_iff_not] at hs
    simp [cycledSlot, hs.2.1.1, hs.2.1.2, hs.2.2]
  have occ' : (cycledSlot t.interval now s).free = false := by
    simp only [resendsAt, Bool.and_eq_true, Bool.not_eq_true', decide_eq_false_iff_not] at hs
    rw [hcyc]
    simp only [PubrecSlot.free, decide_eq_false_iff_not]
    omega
  have paced' : s.packetId ∈ pacedIds (t.retryCycle now).2.slots := by
    have same : (cycledSlot t.interval now s).packetId = s.packetId := by rw [hcyc]
    rw [← same]
    exact List.mem_map_of_mem (List.mem_filter.2 ⟨kept, by simp [occ']⟩)
  exact ⟨(contains_iff_mem t _).2 (hc.paced_perm.subset paced),
    (contains_iff_mem _ _).2 ((hc.retryCycle now).paced_perm.subset paced')⟩

end Identifier

/-! ## The schedule -/

/-- How a resend cycle treats the message held under an identifier. -/
inductive Pace where
  /-- Its resend is not yet due. -/
  | wait
  /-- Its PUBREC is to be sent again. -/
  | resend
  /-- It had no resend left and is dropped. -/
  | drop
  /-- No message is held under the identifier. -/
  | gone
  deriving DecidableEq, Repr

/-- Whether a cycle did something to the message: resent its PUBREC or dropped it. -/
def Pace.acts : Pace → Bool
  | .resend | .drop => true
  | .wait | .gone => false

/-- How the cycle of a tracker at `now` treats the message held under `i`: it is dropped when
held before the cycle and not after it, resent when the cycle lists `i`, and waits otherwise. -/
def Pace.of (t : ExactlyOnce) (i : UInt16) (now : Int) : Pace :=
  if t.contains i then
    if (t.retryCycle now).2.contains i then
      if i ∈ (t.retryCycle now).1.resend then .resend else .wait
    else .drop
  else .gone

/-- The schedule of a message held with `left` resends to go and the next due at `deadline`,
over resend cycles at the given times: a cycle before the deadline waits; one at or after it
resends and moves the deadline to its own time plus `iv` while a resend is left, and drops the
message when none is; after that the message is gone. -/
def pubrecSchedule (iv : Int) : Nat → Int → List Int → List Pace
  | _, _, [] => []
  | left, deadline, now :: rest =>
    if now < deadline then .wait :: pubrecSchedule iv left deadline rest
    else match left with
      | 0 => .drop :: rest.map fun _ => .gone
      | k + 1 => .resend :: pubrecSchedule iv k (now + iv) rest

section Schedule

variable {iv deadline now : Int} {rest : List Int}

@[simp] theorem pubrecSchedule_wait {left : Nat} (early : now < deadline) :
    pubrecSchedule iv left deadline (now :: rest) = .wait :: pubrecSchedule iv left deadline rest := by
  simp [pubrecSchedule, early]

@[simp] theorem pubrecSchedule_resend {k : Nat} (due : deadline ≤ now) :
    pubrecSchedule iv (k + 1) deadline (now :: rest) =
      .resend :: pubrecSchedule iv k (now + iv) rest := by
  simp [pubrecSchedule, show ¬ now < deadline by omega]

@[simp] theorem pubrecSchedule_drop (due : deadline ≤ now) :
    pubrecSchedule iv 0 deadline (now :: rest) = .drop :: rest.map fun _ => .gone := by
  simp [pubrecSchedule, show ¬ now < deadline by omega]

end Schedule

/-- Along a schedule the cycles that act on the message are at most `left` resends and then at
most one drop. -/
theorem pubrecSchedule_acts (iv : Int) :
    ∀ (left : Nat) (deadline : Int) (times : List Int),
      (pubrecSchedule iv left deadline times).filter Pace.acts <+:
        List.replicate left .resend ++ [.drop]
  | _, _, [] => List.nil_prefix
  | left, deadline, now :: rest => by
    by_cases early : now < deadline
    · -- a cycle before the deadline does not act on the message
      rw [pubrecSchedule_wait early]
      simpa [List.filter_cons, Pace.acts] using pubrecSchedule_acts iv left deadline rest
    · cases left with
      | zero =>
        -- the drop, and nothing after it acts
        rw [pubrecSchedule_drop (by omega)]
        simp [List.filter_cons, Pace.acts]
      | succ k =>
        rw [pubrecSchedule_resend (by omega), List.replicate_succ, List.cons_append,
          List.filter_cons_of_pos rfl]
        exact List.cons_prefix_cons.2 ⟨rfl, pubrecSchedule_acts iv k (now + iv) rest⟩

/-- A cycle of a consistent tracker lists an identifier for a resend once when it resends the
message held under it, and else not at all. -/
theorem Consistent.count_resend {t : ExactlyOnce} (hc : t.Consistent) (i : UInt16) (now : Int) :
    (t.retryCycle now).1.resend.count i = if Pace.of t i now = .resend then 1 else 0 := by
  by_cases h : i ∈ (t.retryCycle now).1.resend
  · obtain ⟨before, after⟩ := hc.held_of_resend h
    simp [Pace.of, before, after, h, List.count_eq_one_of_mem (hc.resend_nodup now) h]
  · have hpace : Pace.of t i now ≠ .resend := by
      unfold Pace.of
      split_ifs <;> simp_all
    simp [hpace, List.count_eq_zero_of_not_mem h]

/-! ## Runs of calls -/

/-- Whether a call leaves the message under `i` to the resend cycles: it releases, clears or
tracks nothing under `i`. -/
def Op.spares (i : UInt16) : Op → Bool
  | .track j _ _ => j != i
  | .retry _ => true
  | .release j => j != i
  | .clear => false

/-- The resend cycles of a run of calls, each with the tracker it ran on and its time. -/
def retryCalls : ExactlyOnce → List Op → List (ExactlyOnce × Int)
  | _, [] => []
  | t, op :: ops =>
    (match op with
      | .retry now => [(t, now)]
      | _ => []) ++ retryCalls (op.apply (t, {})).1 ops

/-- No call changes the number of resends a slot starts with or the interval between them. -/
theorem settings_apply (s : ExactlyOnce × Ledger) (op : Op) :
    (op.apply s).1.maxRetries = s.1.maxRetries ∧ (op.apply s).1.interval = s.1.interval := by
  obtain ⟨t, L⟩ := s
  cases op with
  | track j m now =>
    simp only [Op.apply]
    cases ht : t.track j m now with
    | error e => exact ⟨rfl, rfl⟩
    | ok t' =>
      rcases track_ok ht with ⟨-, rfl⟩ | ⟨-, -, -, -, -, -, rfl⟩ <;> exact ⟨rfl, rfl⟩
  | retry now => exact ⟨rfl, rfl⟩
  | release j =>
    simp only [Op.apply, release]
    split <;> exact ⟨rfl, rfl⟩
  | clear => exact ⟨rfl, rfl⟩

theorem settings_run (s : ExactlyOnce × Ledger) (ops : List Op) :
    (Op.run s ops).1.maxRetries = s.1.maxRetries ∧ (Op.run s ops).1.interval = s.1.interval := by
  induction ops generalizing s with
  | nil => exact ⟨rfl, rfl⟩
  | cons op ops ih =>
    obtain ⟨r, i⟩ := settings_apply s op
    obtain ⟨r', i'⟩ := ih (op.apply s)
    exact ⟨r'.trans r, i'.trans i⟩

/-- Every call keeps a tracker's two tables in step. -/
theorem Consistent.apply {t : ExactlyOnce} (hc : t.Consistent) (L : Ledger) (op : Op) :
    (op.apply (t, L)).1.Consistent := by
  cases op with
  | track j m now =>
    simp only [Op.apply]
    cases ht : t.track j m now with
    | error e => exact hc
    | ok t' => exact hc.track ht
  | retry now => exact hc.retryCycle now
  | release j => exact hc.release j
  | clear => exact Consistent.clear t

/-- Every cycle of a run from a consistent tracker runs on a consistent tracker. -/
theorem Consistent.of_retryCalls {t : ExactlyOnce} (hc : t.Consistent) (ops : List Op) :
    ∀ c ∈ retryCalls t ops, c.1.Consistent := by
  induction ops generalizing t with
  | nil => simp [retryCalls]
  | cons op ops ih =>
    intro c hc'
    simp only [retryCalls, List.mem_append] at hc'
    rcases hc' with here | later
    · cases op <;> simp_all
    · exact ih (hc.apply {} op) c later

/-! ## The state of one slot -/

/-- A tracker holds `m` under `i` and paces it in a slot with `left` resends to go and the next
due at `deadline`, its two tables in step. -/
structure Paces (t : ExactlyOnce) (i : UInt16) (m : Message) (left : Nat) (deadline : Int) :
    Prop where
  consistent : t.Consistent
  held : t.lookup i = some m
  slot : (⟨i, left, deadline⟩ : PubrecSlot) ∈ t.slots

section Step

variable {t : ExactlyOnce} {i : UInt16} {m : Message} {left : Nat} {deadline now : Int}

theorem Paces.occupied (_ : Paces t i m left deadline) :
    (⟨i, left, deadline⟩ : PubrecSlot).free = false :=
  slot_occupied i left deadline

theorem Paces.holds (h : Paces t i m left deadline) : t.contains i = true := by
  simp [ExactlyOnce.contains, h.held]

/-- The slot of the message is the one occupied slot that paces its identifier. -/
theorem Paces.slot_eq (h : Paces t i m left deadline) {s : PubrecSlot} (hs : s ∈ t.slots)
    (occ : s.free = false) (same : s.packetId = i) : s = ⟨i, left, deadline⟩ :=
  h.consistent.slot_eq hs h.slot occ h.occupied same

/-- A cycle lists the identifier for a resend exactly when the message's slot resends. -/
theorem Paces.mem_resend_iff (h : Paces t i m left deadline) :
    i ∈ (t.retryCycle now).1.resend ↔ resendsAt now ⟨i, left, deadline⟩ = true := by
  rw [retryCycle_eq, retrySlots_resend]
  constructor
  · intro hmem
    obtain ⟨s, hs, same⟩ := List.mem_map.1 hmem
    rw [List.mem_filter] at hs
    rw [← h.slot_eq hs.1 (occupied_of_resendsAt hs.2) same]
    exact hs.2
  · intro hres
    exact List.mem_map_of_mem (List.mem_filter.2 ⟨h.slot, hres⟩)

/-- A cycle drops the message exactly when the message's slot expires. -/
theorem Paces.lookup_retryCycle (h : Paces t i m left deadline) :
    (t.retryCycle now).2.lookup i =
      if expires now ⟨i, left, deadline⟩ then none else some m := by
  have hiff : ((t.slots.filter (expires now)).map (·.packetId)).contains i =
      expires now ⟨i, left, deadline⟩ := by
    apply Bool.eq_iff_iff.2
    simp only [List.contains_iff_mem, List.mem_map, List.mem_filter]
    constructor
    · rintro ⟨s, ⟨hs, hexp⟩, same⟩
      rwa [← h.slot_eq hs (occupied_of_expires hexp) same]
    · intro hexp
      exact ⟨_, ⟨h.slot, hexp⟩, rfl⟩
  rw [retryCycle_lookup, hiff, h.held]

/-- The message's slot after a cycle is its cycled form. -/
theorem Paces.cycled_mem (h : Paces t i m left deadline) :
    cycledSlot t.interval now ⟨i, left, deadline⟩ ∈ (t.retryCycle now).2.slots := by
  rw [retryCycle_eq, retrySlots_slots_eq]
  exact List.mem_map_of_mem h.slot

/-- A cycle before the deadline leaves the message waiting, its slot as it was. -/
theorem Paces.retry_wait (h : Paces t i m left deadline) (early : now < deadline) :
    Pace.of t i now = .wait ∧ Paces (t.retryCycle now).2 i m left deadline := by
  have notExpired : expires now ⟨i, left, deadline⟩ = false := by
    rw [← Bool.not_eq_true, expires_eq_true]
    rintro ⟨-, due, -⟩
    exact absurd early (by simpa using due)
  have notResent : resendsAt now ⟨i, left, deadline⟩ = false := by
    rw [← Bool.not_eq_true, resendsAt_eq_true]
    rintro ⟨-, due, -⟩
    exact absurd early (by simpa using due)
  have held' : (t.retryCycle now).2.lookup i = some m := by
    rw [h.lookup_retryCycle, notExpired]
    rfl
  have slot' : cycledSlot t.interval now ⟨i, left, deadline⟩ ∈ (t.retryCycle now).2.slots :=
    h.cycled_mem
  simp only [cycledSlot, slot_occupied, early, decide_true, Bool.or_true, if_true] at slot'
  refine ⟨?_, ⟨h.consistent.retryCycle now, held', slot'⟩⟩
  have hnot : i ∉ (t.retryCycle now).1.resend := by
    rw [h.mem_resend_iff, notResent]
    exact Bool.false_ne_true
  simp [Pace.of, ExactlyOnce.contains, h.held, held', hnot]

/-- A due cycle with a resend left resends the message and moves its deadline to one interval
after the cycle. -/
theorem Paces.retry_resend (h : Paces t i m (left + 1) deadline) (due : deadline ≤ now) :
    Pace.of t i now = .resend ∧ Paces (t.retryCycle now).2 i m left (now + t.interval) := by
  have notEarly : ¬ now < deadline := by omega
  have notExpired : expires now ⟨i, ↑(left + 1), deadline⟩ = false := by
    rw [← Bool.not_eq_true, expires_eq_true]
    rintro ⟨-, -, last⟩
    simp only at last
    omega
  have resent : resendsAt now ⟨i, ↑(left + 1), deadline⟩ = true :=
    resendsAt_eq_true.2 ⟨slot_occupied _ _ _, due, by simp only; omega⟩
  have held' : (t.retryCycle now).2.lookup i = some m := by
    rw [h.lookup_retryCycle, notExpired]
    rfl
  have slot' : cycledSlot t.interval now ⟨i, ↑(left + 1), deadline⟩ ∈
      (t.retryCycle now).2.slots :=
    h.cycled_mem
  have hcyc : cycledSlot t.interval now ⟨i, ↑(left + 1), deadline⟩ =
      ⟨i, left, now + t.interval⟩ := by
    simp only [cycledSlot, slot_occupied, notEarly, decide_false, Bool.or_false,
      Bool.false_eq_true, if_false]
    rw [if_neg (by omega)]
    congr 1
    omega
  rw [hcyc] at slot'
  refine ⟨?_, ⟨h.consistent.retryCycle now, held', slot'⟩⟩
  have hmem : i ∈ (t.retryCycle now).1.resend := h.mem_resend_iff.2 resent
  simp [Pace.of, ExactlyOnce.contains, h.held, held', hmem]

/-- A due cycle with no resend left drops the message: it leaves the map and is returned among
the dropped. -/
theorem Paces.retry_drop (h : Paces t i m 0 deadline) (due : deadline ≤ now) :
    Pace.of t i now = .drop ∧ (t.retryCycle now).2.lookup i = none ∧
      m ∈ (t.retryCycle now).1.dropped := by
  have expired : expires now ⟨i, ↑(0 : Nat), deadline⟩ = true :=
    expires_eq_true.2 ⟨slot_occupied _ _ _, due, by simp⟩
  have gone : (t.retryCycle now).2.lookup i = none := by
    rw [h.lookup_retryCycle, expired]
    rfl
  refine ⟨?_, gone, h.consistent.mem_dropped h.held gone⟩
  simp [Pace.of, ExactlyOnce.contains, h.held, gone]

/-- Occupying a free slot leaves every occupied slot in place. -/
theorem occupyFirst_mem {s x : PubrecSlot} {l l' : List PubrecSlot}
    (h : occupyFirst s l = some l') (hx : x ∈ l) (occ : x.free = false) : x ∈ l' := by
  induction l generalizing l' with
  | nil => cases hx
  | cons y rest ih =>
    by_cases hy : y.free
    · simp only [occupyFirst, hy, if_true, Option.some.injEq] at h
      subst h
      rcases List.mem_cons.1 hx with rfl | hx
      · rw [occ] at hy
        cases hy
      · exact List.mem_cons_of_mem _ hx
    · simp only [occupyFirst, hy, Bool.false_eq_true, if_false, Option.map_eq_some_iff] at h
      obtain ⟨r, hr, rfl⟩ := h
      rcases List.mem_cons.1 hx with rfl | hx
      · exact List.mem_cons_self
      · exact List.mem_cons_of_mem _ (ih hr hx)

/-- Occupying the first free slot puts the new slot in the row. -/
theorem occupyFirst_mem_self {s : PubrecSlot} {l l' : List PubrecSlot}
    (h : occupyFirst s l = some l') : s ∈ l' := by
  induction l generalizing l' with
  | nil => cases h
  | cons y rest ih =>
    by_cases hy : y.free
    · simp only [occupyFirst, hy, if_true, Option.some.injEq] at h
      subst h
      exact List.mem_cons_self
    · simp only [occupyFirst, hy, Bool.false_eq_true, if_false, Option.map_eq_some_iff] at h
      obtain ⟨r, hr, rfl⟩ := h
      exact List.mem_cons_of_mem _ (ih hr)

/-- Freeing the slot of another identifier leaves a slot in place. -/
theorem mem_freeFirst {j : UInt16} {x : PubrecSlot} {l : List PubrecSlot} (hx : x ∈ l)
    (other : x.packetId ≠ j) : x ∈ freeFirst j l := by
  induction l with
  | nil => cases hx
  | cons y rest ih =>
    rcases List.mem_cons.1 hx with rfl | hx
    · by_cases hy : (!x.free && x.packetId == j) = true
      · simp only [Bool.and_eq_true, beq_iff_eq] at hy
        exact absurd hy.2 other
      · simp [freeFirst, hy]
    · by_cases hy : (!y.free && y.packetId == j) = true
      · simp [freeFirst, hy, hx]
      · simp [freeFirst, hy, ih hx]

/-- The lookup of `i` is the same after a Track of another identifier. -/
theorem lookup_track_other {t t' : ExactlyOnce} {j : UInt16} {m' : Option Message}
    (hj : j ≠ i) (ht : t.track j m' now = .ok t') : t'.lookup i = t.lookup i := by
  rcases track_ok ht with ⟨-, rfl⟩ | ⟨msg, s, -, -, -, -, rfl⟩
  · rfl
  · have hne : (j == i) = false := by simpa using hj
    simp [lookup, List.find?_append, hne]

/-- The lookup of `i` is the same after a Release of another identifier. -/
theorem lookup_release_other (hc : t.Consistent) {j : UInt16} (hj : j ≠ i) :
    (t.release j).2.lookup i = t.lookup i := by
  have hne : (i != j) = true := by simpa using Ne.symm hj
  simp only [release_snd hc, lookup, find?_filter_key t.pending (· != j) i, hne, if_true]

/-- A Track of another identifier leaves the message and its slot as they were. -/
theorem Paces.track (h : Paces t i m left deadline) {j : UInt16} (hj : j ≠ i) (m' : Option Message)
    (L : Ledger) : Paces ((Op.track j m' now).apply (t, L)).1 i m left deadline := by
  simp only [Op.apply]
  cases ht : t.track j m' now with
  | error e => exact h
  | ok t' =>
    refine ⟨h.consistent.track ht, (lookup_track_other hj ht).trans h.held, ?_⟩
    rcases track_ok ht with ⟨-, rfl⟩ | ⟨msg, s, -, -, -, hs, rfl⟩
    · exact h.slot
    · exact occupyFirst_mem hs h.slot h.occupied

/-- A Release of another identifier leaves the message and its slot as they were. -/
theorem Paces.release (h : Paces t i m left deadline) {j : UInt16} (hj : j ≠ i) (L : Ledger) :
    Paces ((Op.release j).apply (t, L)).1 i m left deadline := by
  refine ⟨h.consistent.release j, (lookup_release_other h.consistent hj).trans h.held, ?_⟩
  show (⟨i, left, deadline⟩ : PubrecSlot) ∈ (t.release j).2.slots
  rw [release_snd h.consistent]
  exact mem_freeFirst h.slot hj.symm

/-- Track takes a new message into a slot with the tracker's resend count, due one interval
after the Track. -/
theorem Paces.of_track {t' : ExactlyOnce} (hc : t.Consistent) (fresh : t.contains i = false)
    (ht : t.track i (some m) now = .ok t') : Paces t' i m t.maxRetries (now + t.interval) := by
  rcases track_ok ht with ⟨held, -⟩ | ⟨msg, s, hm, -, -, hs, rfl⟩
  · rw [fresh] at held
    cases held
  · cases hm
    have none_before : t.lookup i = none := by
      cases hl : t.lookup i with
      | none => rfl
      | some m' => simp [ExactlyOnce.contains, hl] at fresh
    refine ⟨hc.track ht, ?_, occupyFirst_mem_self hs⟩
    simp only [lookup, List.find?_append] at none_before ⊢
    simp only [Option.map_eq_none_iff] at none_before
    simp [none_before]

end Step

/-! ## Runs -/

section Run

variable {i : UInt16} {m : Message}

/-- Once nothing is held under `i`, every cycle of a run that spares `i` finds nothing. -/
theorem gone_run {t : ExactlyOnce} (hc : t.Consistent) (none_held : t.lookup i = none)
    (ops : List Op) (spares : ∀ op ∈ ops, op.spares i = true) :
    (retryCalls t ops).map (fun c => Pace.of c.1 i c.2) = (retryCalls t ops).map fun _ => .gone := by
  induction ops generalizing t with
  | nil => rfl
  | cons op ops ih =>
    have later : ∀ o ∈ ops, o.spares i = true := fun o ho => spares o (List.mem_cons_of_mem _ ho)
    have rest := fun none_held' => ih (hc.apply {} op) none_held' later
    cases op with
    | track j m' now =>
      have hj : j ≠ i := by simpa [Op.spares] using spares _ List.mem_cons_self
      simp only [retryCalls, List.nil_append]
      apply rest
      simp only [Op.apply]
      cases ht : t.track j m' now with
      | error e => exact none_held
      | ok t' => exact (lookup_track_other hj ht).trans none_held
    | retry now =>
      have after : (t.retryCycle now).2.lookup i = none := by
        rw [retryCycle_lookup, none_held]
        split <;> rfl
      simp only [retryCalls, List.singleton_append, List.map_cons]
      rw [rest after]
      simp [Pace.of, ExactlyOnce.contains, none_held]
    | release j =>
      have hj : j ≠ i := by simpa [Op.spares] using spares _ List.mem_cons_self
      simp only [retryCalls, List.nil_append]
      exact rest ((lookup_release_other hc hj).trans none_held)
    | clear => simp [Op.spares] at spares

/-- Over every run that spares `i`, the cycles treat the message as its schedule says, and the
cycle that drops it returns it among the dropped. -/
theorem Paces.run {t : ExactlyOnce} {left : Nat} {deadline : Int}
    (h : Paces t i m left deadline) (ops : List Op) (spares : ∀ op ∈ ops, op.spares i = true) :
    (retryCalls t ops).map (fun c => Pace.of c.1 i c.2) =
        pubrecSchedule t.interval left deadline ((retryCalls t ops).map (·.2)) ∧
      ∀ c ∈ retryCalls t ops, Pace.of c.1 i c.2 = .drop → m ∈ (c.1.retryCycle c.2).1.dropped := by
  induction ops generalizing t left deadline with
  | nil => exact ⟨rfl, by simp [retryCalls]⟩
  | cons op ops ih =>
    have later : ∀ o ∈ ops, o.spares i = true := fun o ho => spares o (List.mem_cons_of_mem _ ho)
    cases op with
    | track j m' now =>
      -- another identifier's Track: no cycle, the slot as it was
      have hj : j ≠ i := by simpa [Op.spares] using spares _ List.mem_cons_self
      have h' : Paces ((Op.track j m' now).apply (t, {})).1 i m left deadline := h.track hj m' {}
      have hiv := (settings_apply (t, {}) (.track j m' now)).2
      simp only [retryCalls, List.nil_append]
      rw [← hiv]
      exact ih h' later
    | release j =>
      have hj : j ≠ i := by simpa [Op.spares] using spares _ List.mem_cons_self
      have h' := h.release hj {}
      have hiv := (settings_apply (t, {}) (.release j)).2
      simp only [retryCalls, List.nil_append]
      rw [← hiv]
      exact ih h' later
    | clear => simp [Op.spares] at spares
    | retry now =>
      have hiv : (t.retryCycle now).2.interval = t.interval := rfl
      simp only [retryCalls, Op.apply, List.singleton_append, List.map_cons, List.mem_cons]
      by_cases early : now < deadline
      · -- before the deadline: the message waits and its slot stays
        obtain ⟨pace, h'⟩ := h.retry_wait early
        obtain ⟨runs, drops⟩ := ih h' later
        rw [hiv] at runs
        refine ⟨?_, ?_⟩
        · rw [pace, runs, pubrecSchedule_wait early]
        · rintro c (rfl | hc) hdrop
          · rw [pace] at hdrop
            cases hdrop
          · exact drops c hc hdrop
      · cases left with
        | succ k =>
          -- due with a resend left: the PUBREC goes again and the deadline moves
          obtain ⟨pace, h'⟩ := h.retry_resend (show deadline ≤ now by omega)
          obtain ⟨runs, drops⟩ := ih h' later
          rw [hiv] at runs
          refine ⟨?_, ?_⟩
          · rw [pace, runs, pubrecSchedule_resend (by omega)]
          · rintro c (rfl | hc) hdrop
            · rw [pace] at hdrop
              cases hdrop
            · exact drops c hc hdrop
        | zero =>
          -- due with no resend left: the message is dropped, and nothing is left to treat
          obtain ⟨pace, gone, dropped⟩ := h.retry_drop (show deadline ≤ now by omega)
          have rest := gone_run (h.consistent.retryCycle now) gone ops later
          refine ⟨?_, ?_⟩
          · rw [pace, rest, pubrecSchedule_drop (by omega), List.map_map]
            rfl
          · rintro c (rfl | hc) hdrop
            · exact dropped
            · have : Pace.of c.1 i c.2 = .gone := by
                have hmem : Pace.of c.1 i c.2 ∈ (retryCalls (t.retryCycle now).2 ops).map
                    fun c => Pace.of c.1 i c.2 := List.mem_map_of_mem hc
                rw [rest] at hmem
                obtain ⟨-, -, hg⟩ := List.mem_map.1 hmem
                exact hg.symm
              rw [this] at hdrop
              cases hdrop

end Run

/-! ## The schedule of a tracked message -/

/-- A message tracked at `t0` under a new identifier `i`, on a tracker created with a resend count
`r ≥ 1` and an interval `iv > 0` and then used in any way, is treated by the resend cycles of
every later run that releases, clears and tracks nothing under `i` as `pubrecSchedule` says: its
deadline starts at `t0 + iv`; a cycle before the deadline neither resends nor drops it; each
cycle at or after the deadline resends it and moves the deadline to its own time plus `iv`, up to
`r` times; and the next such cycle drops it. So the cycles that act on it are at most `r`
resends followed by at most one drop; each resend lists `i` exactly once and the drop returns the
message among the dropped. -/
theorem pubrec_schedule (size r iv : Int) (hr : 0 < r) (hiv : 0 < iv) (pre : List Op)
    {i : UInt16} {msg : Message} {t0 : Int} {t : ExactlyOnce}
    (fresh : (Op.run (create size r iv, {}) pre).1.contains i = false)
    (tracked : (Op.run (create size r iv, {}) pre).1.track i (some msg) t0 = .ok t)
    (ops : List Op) (spares : ∀ op ∈ ops, op.spares i = true) :
    (retryCalls t ops).map (fun c => Pace.of c.1 i c.2) =
        pubrecSchedule iv r.toNat (t0 + iv) ((retryCalls t ops).map (·.2)) ∧
      (∀ c ∈ retryCalls t ops,
        (c.1.retryCycle c.2).1.resend.count i = (if Pace.of c.1 i c.2 = .resend then 1 else 0) ∧
        (Pace.of c.1 i c.2 = .drop → msg ∈ (c.1.retryCycle c.2).1.dropped)) ∧
      ((retryCalls t ops).map fun c => Pace.of c.1 i c.2).filter Pace.acts <+:
        List.replicate r.toNat .resend ++ [.drop] := by
  have reached := (accounts_create size r iv).run pre
  have hc := reached.1.consistent
  obtain ⟨hmax, hint⟩ := settings_run (create size r iv, {}) pre
  have hmax' : (Op.run (create size r iv, {}) pre).1.maxRetries = r.toNat := by
    rw [hmax]
    simp [create, show ¬ r ≤ 0 by omega]
  have hint' : (Op.run (create size r iv, {}) pre).1.interval = iv := by
    rw [hint]
    simp [create, show ¬ iv ≤ 0 by omega]
  have start := Paces.of_track hc fresh tracked
  rw [hmax', hint'] at start
  have hiv' : t.interval = iv := by
    rw [← hint', ← (settings_apply (Op.run (create size r iv, {}) pre) (.track i (some msg) t0)).2]
    simp only [Op.apply, tracked]
  obtain ⟨runs, drops⟩ := start.run ops spares
  rw [hiv'] at runs
  refine ⟨runs, fun c hc' => ⟨?_, drops c hc'⟩, ?_⟩
  · exact (start.consistent.of_retryCalls ops c hc').count_resend i c.2
  · rw [runs]
    exact pubrecSchedule_acts iv r.toNat (t0 + iv) _

/-- Two resends every 100 ms for a message tracked at time 0, with another identifier tracked in
between: the cycles at 100 and 200 resend, the one at 400 drops, and the others wait or find
nothing. -/
theorem pubrec_schedule_twoResends :
    let t : ExactlyOnce :=
      { slots := [⟨5, 2, 100⟩, PubrecSlot.vacant], pending := [(5, default)], maxRetries := 2,
        interval := 100 }
    let ops : List Op :=
      [.retry 50, .retry 100, .track 7 (some default) 120, .retry 150, .retry 200, .retry 250,
        .retry 400, .retry 500]
    (0 : Int) < 2 ∧ (0 : Int) < 100 ∧
      (Op.run (create 2 2 100, {}) []).1.contains 5 = false ∧
      (Op.run (create 2 2 100, {}) []).1.track 5 (some default) 0 = .ok t ∧
      (∀ op ∈ ops, op.spares 5 = true) ∧
      ((retryCalls t ops).map (fun c => Pace.of c.1 5 c.2) =
          pubrecSchedule 100 (2 : Int).toNat (0 + 100) ((retryCalls t ops).map (·.2)) ∧
        (∀ c ∈ retryCalls t ops,
          (c.1.retryCycle c.2).1.resend.count 5 = (if Pace.of c.1 5 c.2 = .resend then 1 else 0) ∧
          (Pace.of c.1 5 c.2 = .drop → default ∈ (c.1.retryCycle c.2).1.dropped)) ∧
        ((retryCalls t ops).map fun c => Pace.of c.1 5 c.2).filter Pace.acts <+:
          List.replicate (2 : Int).toNat .resend ++ [.drop]) :=
  ⟨by decide, by decide, rfl, rfl, by decide,
    pubrec_schedule 2 2 100 (by decide) (by decide) [] rfl rfl _ (by decide)⟩

end ExactlyOnce

end Mqtt
