import Mathlib.Data.List.Perm.Basic
import Mathlib.Data.List.Nodup
import Mqtt.Session.ExactlyOnce
/-! # The QoS 2 tracker keeps its two tables in step

The tracker holds QoS 2 messages in a map from identifier to message and paces their PUBREC
resends in a fixed row of slots. The two must agree: every held message has exactly one occupied
slot, and no identifier is held twice. `Consistent` says so, and each call keeps it
(`Consistent.track`, `Consistent.release`, `Consistent.retryCycle`, `Consistent.clear`); the
resend cycle is the involved case, since it walks the slots while it drops entries from the map
(`retrySlots_slots`, `retrySlots_pending`).

From the agreement follow the facts a caller sees: a tracker is full exactly when every slot
paces a held message (`track_full_iff`), and a resend cycle hands out exactly the messages it
takes from the map (`retrySlots_conserves`).
-/

namespace Mqtt

namespace ExactlyOnce

/-! ## Slots -/

/-- The identifiers that the occupied slots of a row pace, in slot order. -/
def pacedIds (l : List PubrecSlot) : List UInt16 :=
  (l.filter fun s => !s.free).map (·.packetId)

@[simp] theorem vacant_free : PubrecSlot.vacant.free = true := by decide

@[simp] theorem pacedIds_nil : pacedIds [] = [] := rfl

theorem pacedIds_cons (s : PubrecSlot) (l : List PubrecSlot) :
    pacedIds (s :: l) = if s.free then pacedIds l else s.packetId :: pacedIds l := by
  cases h : s.free <;> simp [pacedIds, h]

@[simp] theorem pacedIds_replicate_vacant (n : Nat) :
    pacedIds (List.replicate n PubrecSlot.vacant) = [] := by
  induction n with
  | zero => rfl
  | succ n ih => rw [List.replicate_succ, pacedIds_cons, if_pos vacant_free, ih]

@[simp] theorem pacedIds_map_vacant (l : List PubrecSlot) :
    pacedIds (l.map fun _ => PubrecSlot.vacant) = [] := by
  rw [List.map_const', pacedIds_replicate_vacant]

/-- Every slot of a row is occupied exactly when the row paces as many identifiers as it has
slots. -/
theorem pacedIds_length_eq_iff (l : List PubrecSlot) :
    (pacedIds l).length = l.length ↔ ∀ x ∈ l, x.free = false := by
  simp [pacedIds, List.length_filter_eq_length_iff]

theorem slot_occupied (i : UInt16) (n : Nat) (d : Int) :
    (PubrecSlot.mk i n d).free = false := by
  simp [PubrecSlot.free]

/-- There is no free slot to occupy exactly when every slot is occupied. -/
theorem occupyFirst_eq_none_iff (s : PubrecSlot) (l : List PubrecSlot) :
    occupyFirst s l = none ↔ ∀ x ∈ l, x.free = false := by
  induction l with
  | nil => simp [occupyFirst]
  | cons x rest ih =>
    cases hx : x.free <;> simp [occupyFirst, hx, ih]

/-- Occupying a slot keeps the row's length and adds the new slot's identifier to those paced. -/
theorem occupyFirst_some {s : PubrecSlot} {l l' : List PubrecSlot} (h : occupyFirst s l = some l')
    (hs : s.free = false) : l'.length = l.length ∧ (pacedIds l').Perm (s.packetId :: pacedIds l) := by
  induction l generalizing l' with
  | nil => simp [occupyFirst] at h
  | cons x rest ih =>
    by_cases hx : x.free
    · -- the first free slot is taken
      simp only [occupyFirst, hx, if_true, Option.some.injEq] at h
      subst h
      simp [pacedIds_cons, hs, hx]
    · -- an occupied slot is passed over and stays in front
      simp only [occupyFirst, hx, Bool.false_eq_true, if_false, Option.map_eq_some_iff] at h
      obtain ⟨r, hr, rfl⟩ := h
      obtain ⟨hlen, hperm⟩ := ih hr
      refine ⟨by simp [hlen], ?_⟩
      simp only [pacedIds_cons, hx, Bool.false_eq_true, if_false]
      exact (hperm.cons x.packetId).trans (List.Perm.swap _ _ _)

@[simp] theorem freeFirst_length (i : UInt16) (l : List PubrecSlot) :
    (freeFirst i l).length = l.length := by
  induction l with
  | nil => rfl
  | cons x rest ih => by_cases h : (!x.free && x.packetId == i) = true <;> simp [freeFirst, h, ih]

/-- Freeing the first slot that paces an identifier takes that identifier off the paced ones. -/
theorem pacedIds_freeFirst (i : UInt16) (l : List PubrecSlot) :
    pacedIds (freeFirst i l) = (pacedIds l).erase i := by
  induction l with
  | nil => rfl
  | cons x rest ih =>
    by_cases hx : x.free
    · simp [freeFirst, hx, pacedIds_cons, ih]
    · by_cases hi : x.packetId = i
      · simp [freeFirst, hx, hi, pacedIds_cons]
      · have hne : ¬(x.packetId == i) = true := by simpa using hi
        simp [freeFirst, hx, hi, pacedIds_cons, ih, List.erase_cons_tail hne]

/-! ## Held messages -/

/-- The identifiers of the held messages, in the order the messages arrived. -/
def heldIds (t : ExactlyOnce) : List UInt16 := t.pending.map (·.1)

theorem contains_iff_mem (t : ExactlyOnce) (i : UInt16) :
    t.contains i = true ↔ i ∈ t.heldIds := by
  simp [contains, lookup, heldIds, List.find?_isSome]

/-- Looking an identifier up after keeping only the entries whose identifiers pass a test: the
entry is found as before if the identifier passes, and not at all if it does not. -/
theorem find?_filter_key (P : List (UInt16 × Message)) (q : UInt16 → Bool) (i : UInt16) :
    (P.filter fun e => q e.1).find? (·.1 == i) = if q i then P.find? (·.1 == i) else none := by
  induction P with
  | nil => simp
  | cons e rest ih =>
    by_cases he : e.1 = i
    · -- the entry under `i` is kept exactly when `i` passes
      subst he
      by_cases hq : q e.1 <;> simp [hq, ih]
    · have hne : (e.1 == i) = false := by simpa using he
      by_cases hq : q e.1 <;> simp [hq, hne, ih]

/-- With identifiers held at most once, the held messages are the one under an identifier and
the others. -/
theorem messages_split (P : List (UInt16 × Message)) (hn : (P.map (·.1)).Nodup) (i : UInt16) :
    (P.map (·.2)).Perm
      (((P.find? (·.1 == i)).map (·.2)).toList ++ (P.filter (·.1 != i)).map (·.2)) := by
  induction P with
  | nil => simp
  | cons e rest ih =>
    rw [List.map_cons, List.nodup_cons] at hn
    by_cases he : e.1 = i
    · -- the entry under `i` comes first, and no other entry has that identifier
      have hrest : rest.filter (·.1 != i) = rest := by
        rw [List.filter_eq_self]
        intro x hx
        have : x.1 ≠ i := fun h => hn.1 (he ▸ h ▸ List.mem_map_of_mem hx)
        simpa using this
      simp [he, hrest]
    · have hne : (e.1 == i) = false := by simpa using he
      simp only [List.find?_cons, hne, List.filter_cons, bne, Bool.not_false, if_true,
        List.map_cons]
      exact (ih hn.2).cons _ |>.trans List.perm_middle.symm

/-- The agreement of the two tables: the occupied slots pace exactly the held identifiers, no
identifier is held twice, and identifier zero is never held. -/
structure Consistent (t : ExactlyOnce) : Prop where
  paced_perm : (pacedIds t.slots).Perm t.heldIds
  held_nodup : t.heldIds.Nodup
  zero_free : 0 ∉ t.heldIds

namespace Consistent

variable {t : ExactlyOnce}

theorem ne_zero_of_contains (hc : t.Consistent) {i : UInt16} (h : t.contains i = true) : i ≠ 0 := by
  rintro rfl
  exact hc.zero_free ((contains_iff_mem t 0).1 h)

theorem paced_nodup (hc : t.Consistent) : (pacedIds t.slots).Nodup :=
  hc.paced_perm.nodup_iff.2 hc.held_nodup

end Consistent

/-- The identifiers of entries kept by a test on identifiers are the identifiers that pass. -/
theorem map_fst_filter (P : List (UInt16 × Message)) (q : UInt16 → Bool) :
    (P.filter fun e => q e.1).map (·.1) = (P.map (·.1)).filter q := by
  rw [List.filter_map]
  rfl

/-- A tracker that keeps some of its entries by a test on identifiers: held identifiers stay
distinct and nonzero. -/
theorem Consistent.filter_pending {t : ExactlyOnce} (hc : t.Consistent) (q : UInt16 → Bool)
    (slots : List PubrecSlot)
    (hslots : (pacedIds slots).Perm ((pacedIds t.slots).filter q)) :
    ({ t with slots, pending := t.pending.filter fun e => q e.1 } : ExactlyOnce).Consistent := by
  have hheld : ({ t with slots, pending := t.pending.filter fun e => q e.1 } : ExactlyOnce).heldIds =
      t.heldIds.filter q := map_fst_filter t.pending q
  refine ⟨?_, ?_, ?_⟩
  · rw [hheld]
    exact hslots.trans (hc.paced_perm.filter q)
  · rw [hheld]
    exact hc.held_nodup.filter q
  · rw [hheld]
    exact fun h => hc.zero_free (List.mem_of_mem_filter h)

/-! ## Track -/

section Track

variable {t t' : ExactlyOnce} {i : UInt16} {m : Option Message} {now : Int}

/-- What a successful Track did: nothing, for an identifier already held, or it held a new
message in the first free slot. -/
theorem track_ok (h : t.track i m now = .ok t') :
    (t.contains i = true ∧ t' = t) ∨
    (∃ msg s, m = some msg ∧ i ≠ 0 ∧ t.contains i = false ∧
      occupyFirst ⟨i, t.maxRetries, now + t.interval⟩ t.slots = some s ∧
      t' = { t with slots := s, pending := t.pending ++ [(i, msg)] }) := by
  unfold track at h
  cases m with
  | none => cases h
  | some msg =>
    by_cases h0 : i = 0
    · simp [h0] at h
    · cases hc : t.contains i with
      | true =>
        simp only [h0, hc, beq_iff_eq, if_false, if_true, Except.ok.injEq] at h
        exact .inl ⟨rfl, h.symm⟩
      | false =>
        cases hs : occupyFirst ⟨i, t.maxRetries, now + t.interval⟩ t.slots with
        | none => simp [h0, hc, hs] at h
        | some s =>
          simp only [h0, hc, hs, beq_iff_eq, if_false, Bool.false_eq_true,
            Except.ok.injEq] at h
          exact .inr ⟨msg, s, rfl, h0, rfl, rfl, h.symm⟩

/-- Why Track refused: a missing message or identifier zero, or a new identifier with every
slot occupied. -/
theorem track_error {e : Failure} (h : t.track i m now = .error e) :
    (e = .of .missingArgument ∧ (m = none ∨ i = 0)) ∨
    (e = .of .noCapacity ∧ i ≠ 0 ∧ t.contains i = false ∧ ∀ x ∈ t.slots, x.free = false) := by
  unfold track at h
  cases m with
  | none => exact .inl ⟨(Except.error.inj h).symm, .inl rfl⟩
  | some msg =>
    by_cases h0 : i = 0
    · simp only [h0, beq_self_eq_true, if_true, Except.error.injEq] at h
      exact .inl ⟨h.symm, .inr h0⟩
    · cases hc : t.contains i with
      | true => simp [h0, hc] at h
      | false =>
        cases hs : occupyFirst ⟨i, t.maxRetries, now + t.interval⟩ t.slots with
        | some s => simp [h0, hc, hs] at h
        | none =>
          simp only [h0, hc, hs, beq_iff_eq, if_false, Bool.false_eq_true,
            Except.error.injEq] at h
          exact .inr ⟨h.symm, h0, rfl, (occupyFirst_eq_none_iff _ _).1 hs⟩

/-- A Track keeps the two tables in step. -/
theorem Consistent.track (hc : t.Consistent) (h : t.track i m now = .ok t') : t'.Consistent := by
  rcases track_ok h with ⟨-, rfl⟩ | ⟨msg, s, -, hi0, hnew, hs, rfl⟩
  · exact hc
  · have hi : i ∉ t.heldIds := fun hm => by
      rw [← contains_iff_mem] at hm
      rw [hm] at hnew
      cases hnew
    obtain ⟨-, hperm⟩ := occupyFirst_some hs (slot_occupied _ _ _)
    have hheld : ({ t with slots := s, pending := t.pending ++ [(i, msg)] } : ExactlyOnce).heldIds =
        t.heldIds ++ [i] := by
      simp [heldIds]
    refine ⟨?_, ?_, ?_⟩
    · -- the new slot paces the new identifier, which goes last among the held ones
      rw [hheld]
      exact hperm.trans ((hc.paced_perm.cons i).trans (@List.perm_append_comm _ [i] t.heldIds))
    · rw [hheld, List.nodup_append]
      exact ⟨hc.held_nodup, by simp, fun a ha b hb => by
        rw [List.mem_singleton] at hb
        exact hb ▸ fun he => hi (he ▸ ha)⟩
    · rw [hheld, List.mem_append, List.mem_singleton]
      rintro (h0 | h0)
      · exact hc.zero_free h0
      · exact hi0 h0.symm

/-- A consistent tracker refuses a new identifier for want of a slot exactly when it holds as
many messages as it has slots. -/
theorem track_full_iff (hc : t.Consistent) (hi : i ≠ 0) (hnew : t.contains i = false)
    (msg : Message) :
    t.track i (some msg) now = .error (.of .noCapacity) ↔ t.size = t.slots.length := by
  have hfull : (∀ x ∈ t.slots, x.free = false) ↔ t.size = t.slots.length := by
    rw [← pacedIds_length_eq_iff, hc.paced_perm.length_eq]
    simp [heldIds, size]
  rw [← hfull, ← occupyFirst_eq_none_iff ⟨i, t.maxRetries, now + t.interval⟩]
  unfold track
  cases occupyFirst ⟨i, t.maxRetries, now + t.interval⟩ t.slots <;> simp [hi, hnew]

/-- Track is full only when every slot paces a held message. -/
theorem size_of_noCapacity (hc : t.Consistent)
    (h : t.track i m now = .error (.of .noCapacity)) : t.size = t.slots.length := by
  rcases track_error h with ⟨he, -⟩ | ⟨-, -, -, hall⟩
  · cases he
  · rw [← pacedIds_length_eq_iff, hc.paced_perm.length_eq] at hall
    simpa [heldIds, size] using hall

/-- Tracking an identifier already held changes nothing: the message is not replaced and no
second slot is taken. -/
theorem track_held (hc : t.Consistent) (h : t.contains i = true) (msg : Message) :
    t.track i (some msg) now = .ok t := by
  simp [track, hc.ne_zero_of_contains h, h]

end Track

/-! ## Release -/

section Release

variable {t : ExactlyOnce} {i : UInt16}

/-- Release hands out the message held under the identifier. -/
theorem release_fst (t : ExactlyOnce) (i : UInt16) : (t.release i).1 = t.lookup i := by
  unfold release
  cases t.lookup i <;> rfl

/-- A lookup that finds nothing means no entry has the identifier. -/
theorem filter_of_lookup_none (h : t.lookup i = none) :
    t.pending.filter (·.1 != i) = t.pending := by
  rw [List.filter_eq_self]
  intro e he
  simp only [lookup, Option.map_eq_none_iff, List.find?_eq_none] at h
  simpa using h e he

/-- Freeing the slot of an identifier no slot paces changes nothing. -/
theorem freeFirst_of_not_mem {l : List PubrecSlot} (h : i ∉ pacedIds l) : freeFirst i l = l := by
  induction l with
  | nil => rfl
  | cons x rest ih =>
    rw [pacedIds_cons] at h
    by_cases hx : x.free
    · rw [if_pos hx] at h
      simp [freeFirst, hx, ih h]
    · rw [if_neg hx, List.mem_cons, not_or] at h
      have hne : x.packetId ≠ i := fun he => h.1 he.symm
      simp [freeFirst, hx, hne, ih h.2]

/-- On a consistent tracker, Release takes every entry of the identifier out of the map and frees
the slot that paces it, whether or not a message was held. -/
theorem release_snd (hc : t.Consistent) (i : UInt16) :
    (t.release i).2 = { t with pending := t.pending.filter (·.1 != i), slots := freeFirst i t.slots } := by
  unfold release
  cases hl : t.lookup i with
  | some m => rfl
  | none =>
    have hnot : i ∉ t.heldIds := by
      rw [← contains_iff_mem]
      simp [contains, hl]
    have hpaced : i ∉ pacedIds t.slots := fun h => hnot (hc.paced_perm.subset h)
    simp only [filter_of_lookup_none hl, freeFirst_of_not_mem hpaced]

/-- Release keeps the two tables in step. -/
theorem Consistent.release (hc : t.Consistent) (i : UInt16) : (t.release i).2.Consistent := by
  rw [release_snd hc]
  apply hc.filter_pending (· != i)
  rw [pacedIds_freeFirst, hc.paced_nodup.erase_eq_filter]

theorem release_not_contains (t : ExactlyOnce) (i : UInt16) : (t.release i).2.contains i = false := by
  unfold release
  cases hl : t.lookup i with
  | none => simp [contains, hl]
  | some m =>
    simp only [contains, lookup, Option.isSome_map, find?_filter_key t.pending (· != i) i]
    simp

theorem release_slots_length (t : ExactlyOnce) (i : UInt16) :
    (t.release i).2.slots.length = t.slots.length := by
  unfold release
  split <;> simp

theorem release_pending_sublist (t : ExactlyOnce) (i : UInt16) :
    (t.release i).2.pending.Sublist t.pending := by
  unfold release
  cases t.lookup i with
  | none => exact List.Sublist.refl _
  | some m => exact List.filter_sublist

end Release

/-! ## The resend cycle -/

/-- Whether a slot's resend is due at `now` with none left: the cycle frees the slot and drops
its message. -/
def expires (now : Int) (s : PubrecSlot) : Bool :=
  !(s.free || decide (now < s.deadline)) && decide (s.retries - 1 < 0)

theorem occupied_of_expires {now : Int} {s : PubrecSlot} (h : expires now s = true) :
    s.free = false := by
  simp only [expires, Bool.and_eq_true, Bool.not_eq_true', Bool.or_eq_false_iff] at h
  exact h.1.1

section Cycle

variable (iv now : Int)

theorem retrySlots_length (l : List PubrecSlot) (P : List (UInt16 × Message)) :
    (retrySlots iv now l P).2.1.length = l.length := by
  induction l generalizing P with
  | nil => rfl
  | cons s rest ih =>
    simp only [retrySlots]
    split
    · simp [ih]
    · split <;> simp [ih]

/-- After the cycle the slots pace the identifiers of the occupied slots that did not expire. -/
theorem retrySlots_slots (l : List PubrecSlot) (P : List (UInt16 × Message)) :
    pacedIds (retrySlots iv now l P).2.1 =
      (l.filter fun s => !s.free && !expires now s).map (·.packetId) := by
  induction l generalizing P with
  | nil => rfl
  | cons s rest ih =>
    simp only [retrySlots]
    split
    · -- a free slot, or one not yet due, stays as it is
      rename_i hkeep
      have hs : expires now s = false := by simp [expires, hkeep]
      simp only [pacedIds_cons, ih, hs, List.filter_cons]
      cases s.free <;> simp
    · split
      · -- an expired slot is freed
        rename_i hdue hlast
        have hs : expires now s = true := by simp_all [expires]
        simp [pacedIds_cons, ih, hs]
      · -- a due slot with resends left uses one up and stays occupied
        rename_i hdue hlast
        have hs : expires now s = false := by simp_all [expires]
        have hocc : s.free = false := by simp_all
        have hnew : ({ s with retries := s.retries - 1, deadline := now + iv } : PubrecSlot).free =
            false := by
          simp only [PubrecSlot.free, decide_eq_false_iff_not]
          omega
        simp [pacedIds_cons, ih, hs, hocc, hnew]

/-- After the cycle the map keeps the entries whose identifiers no expired slot paced. -/
theorem retrySlots_pending (l : List PubrecSlot) (P : List (UInt16 × Message)) :
    (retrySlots iv now l P).2.2 =
      P.filter fun e => !((l.filter (expires now)).map (·.packetId)).contains e.1 := by
  induction l generalizing P with
  | nil => exact (List.filter_eq_self.2 (by simp)).symm
  | cons s rest ih =>
    simp only [retrySlots]
    split
    · rename_i hkeep
      have hs : expires now s = false := by simp [expires, hkeep]
      simp [ih, hs]
    · split
      · -- the expired slot's entries go first, then those of the expired slots after it
        rename_i hdue hlast
        have hs : expires now s = true := by simp_all [expires]
        simp only [ih, List.filter_filter]
        apply List.filter_congr
        intro e _
        simp only [List.filter_cons, hs, if_true, List.map_cons, List.contains_cons, bne]
        rw [Bool.not_or, Bool.and_comm]
      · rename_i hdue hlast
        have hs : expires now s = false := by simp_all [expires]
        simp [ih, hs]

/-- With identifiers held at most once, the cycle hands out as dropped exactly the messages it
takes out of the map. -/
theorem retrySlots_conserves (l : List PubrecSlot) (P : List (UInt16 × Message))
    (hn : (P.map (·.1)).Nodup) :
    (P.map (·.2)).Perm
      ((retrySlots iv now l P).1.dropped ++ (retrySlots iv now l P).2.2.map (·.2)) := by
  induction l generalizing P with
  | nil => simp [retrySlots]
  | cons s rest ih =>
    simp only [retrySlots]
    split
    · exact ih P hn
    · split
      · -- the message of the expired slot is dropped, the rest goes on through the cycle
        have hn' : ((P.filter (·.1 != s.packetId)).map (·.1)).Nodup :=
          hn.sublist (List.filter_sublist.map _)
        have hrest := (ih _ hn').append_left (((P.find? (·.1 == s.packetId)).map (·.2)).toList)
        rw [← List.append_assoc] at hrest
        exact (messages_split P hn s.packetId).trans hrest
      · exact ih P hn

end Cycle

section RetryCycle

variable {t : ExactlyOnce} {now : Int}

/-- The cycle of a tracker is the cycle of its slots over its map. -/
theorem retryCycle_eq (t : ExactlyOnce) (now : Int) :
    t.retryCycle now =
      ((retrySlots t.interval now t.slots t.pending).1,
       { t with slots := (retrySlots t.interval now t.slots t.pending).2.1,
                pending := (retrySlots t.interval now t.slots t.pending).2.2 }) := rfl

/-- A resend cycle keeps the two tables in step. -/
theorem Consistent.retryCycle (hc : t.Consistent) (now : Int) : (t.retryCycle now).2.Consistent := by
  set D := (t.slots.filter (expires now)).map (·.packetId)
  rw [retryCycle_eq, retrySlots_pending]
  apply hc.filter_pending (fun j => !D.contains j)
  rw [retrySlots_slots, pacedIds, List.filter_map, List.filter_filter]
  -- an occupied slot keeps its identifier exactly when it did not expire, since no identifier
  -- is paced twice
  suffices h : ∀ s ∈ t.slots,
      (!s.free && !expires now s) = ((!D.contains s.packetId) && !s.free) by
    rw [List.filter_congr h]
    rfl
  intro s hs
  cases hfree : s.free with
  | true => simp
  | false =>
    cases hexp : expires now s with
    | true =>
      have hmem : s.packetId ∈ D := List.mem_map_of_mem (List.mem_filter.2 ⟨hs, hexp⟩)
      simp [hmem]
    | false =>
      have hnot : s.packetId ∉ D := by
        intro hmem
        obtain ⟨s₂, hs₂, hid⟩ := List.mem_map.1 hmem
        rw [List.mem_filter] at hs₂
        have hocc₂ := occupied_of_expires hs₂.2
        have heq : s₂ = s := List.inj_on_of_nodup_map hc.paced_nodup
          (List.mem_filter.2 ⟨hs₂.1, by simp [hocc₂]⟩) (List.mem_filter.2 ⟨hs, by simp [hfree]⟩) hid
        rw [heq, hexp] at hs₂
        cases hs₂.2
      simp [hnot]

/-- A resend cycle only takes entries out of the map. -/
theorem retryCycle_pending_sublist (t : ExactlyOnce) (now : Int) :
    (t.retryCycle now).2.pending.Sublist t.pending := by
  rw [retryCycle_eq, retrySlots_pending]
  exact List.filter_sublist

/-- A resend cycle keeps the number of slots. -/
theorem retryCycle_slots_length (t : ExactlyOnce) (now : Int) :
    (t.retryCycle now).2.slots.length = t.slots.length := by
  rw [retryCycle_eq]
  exact retrySlots_length _ _ _ _

/-- The messages a resend cycle drops, with those it keeps, are those held before it. -/
theorem Consistent.retryCycle_conserves (hc : t.Consistent) (now : Int) :
    (t.pending.map (·.2)).Perm
      ((t.retryCycle now).1.dropped ++ (t.retryCycle now).2.pending.map (·.2)) := by
  rw [retryCycle_eq]
  exact retrySlots_conserves _ _ _ _ hc.held_nodup

end RetryCycle

/-! ## Creating and clearing -/

/-- A new tracker has its slot count of free slots and holds nothing. -/
theorem create_consistent (size retries interval : Int) :
    (create size retries interval).Consistent := by
  refine ⟨?_, ?_, ?_⟩ <;> simp [create, heldIds]

theorem create_slots_length (size retries interval : Int) :
    (create size retries interval).slots.length = if size ≤ 0 then 1 else size.toNat := by
  simp [create, defaultSlots]

theorem Consistent.clear (t : ExactlyOnce) : t.clear.Consistent := by
  refine ⟨?_, ?_, ?_⟩ <;> simp [ExactlyOnce.clear, heldIds]

/-! ## Runs of calls

A run is any sequence of Track, resend cycle, Release and Clear calls. Its account lists the
messages Track took in (those it accepted under an identifier not yet held), those Release
handed out, those the resend cycles dropped and those Clear discarded. Over every run from a new
tracker, each message taken in is counted out exactly once, by one of the three routes or by
still being held (`Accounts.conserved`), and a held message is the one its latest accepting
Track took in (`Accounts.latest`).
-/

/-- A call on the tracker. -/
inductive Op where
  | track (i : UInt16) (m : Option Message) (now : Int)
  | retry (now : Int)
  | release (i : UInt16)
  | clear
  deriving Repr, Inhabited

/-- The account of a run: each message Track took in with its identifier, each message Release
handed out with its identifier, each message a resend cycle dropped, and each message Clear
discarded with its identifier. -/
structure Ledger where
  stored : List (UInt16 × Message) := []
  released : List (UInt16 × Message) := []
  dropped : List Message := []
  cleared : List (UInt16 × Message) := []
  deriving Repr, Inhabited

namespace Op

/-- One call on a tracker, entered in its account. -/
def apply : Op → ExactlyOnce × Ledger → ExactlyOnce × Ledger
  | .track i m now, (t, L) =>
    match t.track i m now with
    | .ok t' =>
      (t', if t.contains i then L else { L with stored := L.stored ++ (m.map (i, ·)).toList })
    | .error _ => (t, L)
  | .retry now, (t, L) =>
    (( t.retryCycle now).2, { L with dropped := L.dropped ++ (t.retryCycle now).1.dropped })
  | .release i, (t, L) =>
    ((t.release i).2, { L with released := L.released ++ ((t.release i).1.map (i, ·)).toList })
  | .clear, (t, L) => (t.clear, { L with cleared := L.cleared ++ t.pending })

/-- Calls one after the other. -/
def run (s : ExactlyOnce × Ledger) : List Op → ExactlyOnce × Ledger
  | [] => s
  | op :: ops => run (op.apply s) ops

end Op

/-- What a tracker and the account of its run keep: the tables agree, each message taken in is
either handed out, dropped, discarded or still held, and a held message is the one the latest
accepting Track of its identifier took in. -/
structure Accounts (s : ExactlyOnce × Ledger) : Prop where
  consistent : s.1.Consistent
  conserved : (s.2.stored.map (·.2)).Perm
    (s.2.released.map (·.2) ++ s.2.dropped ++ s.2.cleared.map (·.2) ++ s.1.pending.map (·.2))
  latest : ∀ i m, s.1.lookup i = some m → s.2.stored.reverse.find? (·.1 == i) = some (i, m)

/-- Messages move between the parts of an account without being created or lost: two lists are
permutations of each other exactly when each message occurs equally often in them. -/
theorem perm_of_counts {l₁ l₂ : List Message} (h : ∀ a, l₁.count a = l₂.count a) : l₁.Perm l₂ :=
  List.perm_iff_count.2 h

/-- A lookup after keeping only the entries whose identifiers pass a test finds what it found
before, or nothing. -/
theorem lookup_filter {t t' : ExactlyOnce} (q : UInt16 → Bool)
    (h : t'.pending = t.pending.filter fun e => q e.1) {i : UInt16} {m : Message}
    (hm : t'.lookup i = some m) : t.lookup i = some m := by
  simp only [lookup, h, find?_filter_key] at hm ⊢
  split at hm
  · exact hm
  · cases hm

section Step

variable {s : ExactlyOnce × Ledger}

/-- Track keeps the account: a message it accepts is both taken in and held, and becomes the
latest of its identifier. -/
theorem Accounts.track (h : Accounts s) (i : UInt16) (m : Option Message) (now : Int) :
    Accounts ((Op.track i m now).apply s) := by
  obtain ⟨t, L⟩ := s
  simp only [Op.apply]
  cases ht : t.track i m now with
  | error e => exact h
  | ok t' =>
    simp only
    rcases track_ok ht with ⟨hc, rfl⟩ | ⟨msg, sl, rfl, -, hnew, -, rfl⟩
    · simpa [hc] using h
    · simp only [hnew, Bool.false_eq_true, if_false, Option.map_some, Option.toList_some]
      have hfresh : t.lookup i = none := by simpa [contains] using hnew
      refine ⟨h.consistent.track ht, ?_, ?_⟩
      · -- the new message is counted once on each side
        apply perm_of_counts
        intro a
        have hc := List.perm_iff_count.1 h.conserved a
        simp only [List.map_append, List.map_cons, List.map_nil, List.count_append] at hc ⊢
        omega
      · -- the new entry is the latest of its identifier; the others keep theirs
        intro j mj hj
        by_cases hji : j = i
        · subst hji
          simp only [lookup, List.find?_append, Option.map_or] at hj hfresh
          simp only [hfresh, Option.none_or, List.find?_cons, beq_self_eq_true,
            Option.map_some, Option.some.injEq] at hj
          simp [hj]
        · have hne : (i == j) = false := by simpa using Ne.symm hji
          have hold : t.lookup j = some mj := by
            simp only [lookup, List.find?_append, Option.map_or] at hj
            simp only [lookup]
            cases hf : t.pending.find? (·.1 == j) with
            | some e => simpa [hf] using hj
            | none => simp [hf, hne] at hj
          simpa [List.reverse_append, List.find?_cons, hne] using h.latest j mj hold

/-- A resend cycle keeps the account: what it drops leaves the map. -/
theorem Accounts.retry (h : Accounts s) (now : Int) : Accounts ((Op.retry now).apply s) := by
  obtain ⟨t, L⟩ := s
  refine ⟨h.consistent.retryCycle now, ?_, ?_⟩
  · apply perm_of_counts
    intro a
    have hc := List.perm_iff_count.1 h.conserved a
    have hd := List.perm_iff_count.1 (h.consistent.retryCycle_conserves now) a
    simp only [Op.apply, List.count_append] at hc hd ⊢
    omega
  · intro j mj hj
    apply h.latest j mj
    exact lookup_filter (fun k => !((t.slots.filter (expires now)).map (·.packetId)).contains k)
      (by simp only [Op.apply, retryCycle_eq, retrySlots_pending]) hj

/-- Release keeps the account: the message it hands out leaves the map. -/
theorem Accounts.release (h : Accounts s) (i : UInt16) : Accounts ((Op.release i).apply s) := by
  obtain ⟨t, L⟩ := s
  refine ⟨h.consistent.release i, ?_, ?_⟩
  · apply perm_of_counts
    intro a
    have hc := List.perm_iff_count.1 h.conserved a
    have hd := List.perm_iff_count.1 (messages_split t.pending h.consistent.held_nodup i) a
    simp only [Op.apply, release_fst, release_snd h.consistent, List.map_append,
      List.count_append] at hc hd ⊢
    simp only [lookup] at ⊢
    cases hf : t.pending.find? (·.1 == i) <;> simp [hf] at hd ⊢ <;> omega
  · intro j mj hj
    apply h.latest j mj
    exact lookup_filter (· != i) (by simp [Op.apply, release_snd h.consistent]) hj

/-- Clear keeps the account: what it discards leaves the map. -/
theorem Accounts.clear (h : Accounts s) : Accounts (Op.clear.apply s) := by
  obtain ⟨t, L⟩ := s
  refine ⟨Consistent.clear t, ?_, ?_⟩
  · apply perm_of_counts
    intro a
    have hc := List.perm_iff_count.1 h.conserved a
    simp only [Op.apply, ExactlyOnce.clear, List.map_append, List.map_nil, List.count_append,
      List.count_nil] at hc ⊢
    omega
  · intro j mj hj
    simp [Op.apply, ExactlyOnce.clear, lookup] at hj

/-- Every call keeps the account. -/
theorem Accounts.apply (h : Accounts s) : ∀ op : Op, Accounts (op.apply s)
  | .track i m now => h.track i m now
  | .retry now => h.retry now
  | .release i => h.release i
  | .clear => h.clear

/-- No call changes the number of slots. -/
theorem slots_length_apply (s : ExactlyOnce × Ledger) :
    ∀ op : Op, (op.apply s).1.slots.length = s.1.slots.length
  | .track i m now => by
    obtain ⟨t, L⟩ := s
    simp only [Op.apply]
    cases ht : t.track i m now with
    | error e => rfl
    | ok t' =>
      rcases track_ok ht with ⟨-, rfl⟩ | ⟨msg, sl, -, -, -, hsl, rfl⟩
      · rfl
      · exact (occupyFirst_some hsl (slot_occupied _ _ _)).1
  | .retry now => retryCycle_slots_length s.1 now
  | .release i => release_slots_length s.1 i
  | .clear => by simp [Op.apply, ExactlyOnce.clear]

end Step

/-- A run keeps the account and the number of slots. -/
theorem Accounts.run {s : ExactlyOnce × Ledger} (h : Accounts s) (ops : List Op) :
    Accounts (Op.run s ops) ∧ (Op.run s ops).1.slots.length = s.1.slots.length := by
  induction ops generalizing s with
  | nil => exact ⟨h, rfl⟩
  | cons op ops ih =>
    obtain ⟨hrun, hlen⟩ := ih (h.apply op)
    exact ⟨hrun, hlen.trans (slots_length_apply s op)⟩

/-- A new tracker with an empty account. -/
theorem accounts_create (size retries interval : Int) :
    Accounts (create size retries interval, {}) :=
  ⟨create_consistent size retries interval, by simp [create], by simp [create, lookup]⟩

/-- Over every run of calls on a new tracker: each message Track took in is handed out by
Release or dropped by a resend cycle at most once, and never by both, so that it is counted out
once in all, as handed out, dropped, cleared or still held; the number held is the number taken
in less those counted out; Release hands out the message of the latest Track that took its
identifier in; a Track of a held identifier changes nothing; and Track is full only when as
many distinct identifiers are held as there are slots. -/
theorem run_handsOutOnce (size retries interval : Int) (ops : List Op) :
    let s := Op.run (create size retries interval, {}) ops
    (s.2.stored.map (·.2)).Perm
      (s.2.released.map (·.2) ++ s.2.dropped ++ s.2.cleared.map (·.2) ++ s.1.pending.map (·.2)) ∧
    s.1.size + s.2.released.length + s.2.dropped.length + s.2.cleared.length =
      s.2.stored.length ∧
    (∀ i m, (s.1.release i).1 = some m → s.2.stored.reverse.find? (·.1 == i) = some (i, m)) ∧
    (∀ i m now, s.1.contains i = true → s.1.track i (some m) now = .ok s.1) ∧
    (∀ i m now, s.1.track i m now = .error (.of .noCapacity) →
      s.1.heldIds.Nodup ∧ s.1.size = if size ≤ 0 then 1 else size.toNat) := by
  intro s
  have hrun := (accounts_create size retries interval).run ops
  have h : Accounts s := hrun.1
  have hlen : s.1.slots.length = (create size retries interval).slots.length := hrun.2
  refine ⟨h.conserved, ?_, ?_, ?_, ?_⟩
  · -- the numbers follow from the permutation
    have hl := h.conserved.length_eq
    simp only [List.length_append, List.length_map] at hl
    simp only [ExactlyOnce.size]
    omega
  · intro i m hm
    rw [release_fst] at hm
    exact h.latest i m hm
  · intro i m now hi
    exact track_held h.consistent hi m
  · intro i m now hfull
    refine ⟨h.consistent.held_nodup, ?_⟩
    rw [size_of_noCapacity h.consistent hfull, hlen, create_slots_length]

end ExactlyOnce

end Mqtt
