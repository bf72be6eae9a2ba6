import Mqtt.Session.Subscriptions
/-! # The subscription table as a bounded ordered set

A subscription table behaves as a list of entries with pairwise distinct filters and at most
its capacity of them. `Model.step` is that list model: adding appends an entry with a non-empty
filter exactly when no entry has its filter and there is room, removing deletes the first entry
with the filter and keeps the order of the rest, and clearing empties the list.

The table removes every entry with the filter, not only the first; the two agree because the
filters stay distinct (`filter_ne_eq_eraseP`), and they stay distinct because an addition checks
for the filter before it checks for room. `Refines.step` carries the correspondence over one
call and `refines_run` over any sequence of calls from a new table; `Refines.answers` says what
each call answers on a table that refines its model. Reading calls (get, contains, entries,
length, dispatch) leave the table as it is, so the sequences need only the calls that change it.
-/

namespace Mqtt

namespace SubscriptionTable

variable {H : Type}

/-- A call that may change a table. -/
inductive Update (H : Type) where
  | add (e : Subscription.Entry H)
  | remove (f : Bytes)
  | clear

/-- The table after a call; a refused addition leaves it as it was. -/
def apply (t : SubscriptionTable H) : Update H → SubscriptionTable H
  | .add e =>
    match t.add e with
    | .ok (_, t') => t'
    | .error _ => t
  | .remove f => (t.remove f).2
  | .clear => t.clear

namespace Model

/-- The list model of a table of `cap` places: an addition with a non-empty filter appends
exactly when no entry has that filter and fewer than `cap` entries exist; a removal deletes the
first entry with the filter. -/
def step (cap : Nat) (l : List (Subscription.Entry H)) : Update H → List (Subscription.Entry H)
  | .add e =>
    if e.filter ≠ [] ∧ (∀ x ∈ l, x.filter ≠ e.filter) ∧ l.length < cap then l ++ [e] else l
  | .remove f => l.eraseP (·.filter == f)
  | .clear => []

end Model

/-! ## Reading calls -/

theorem contains_iff (t : SubscriptionTable H) (f : Bytes) :
    t.contains f = true ↔ ∃ x ∈ t.entries, x.filter = f := by
  simp [contains]

/-- Removing every entry with a filter deletes only the first one when filters are distinct. -/
theorem filter_ne_eq_eraseP (f : Bytes) :
    ∀ (l : List (Subscription.Entry H)), (l.map (·.filter)).Nodup →
      l.filter (·.filter != f) = l.eraseP (·.filter == f)
  | [], _ => rfl
  | x :: l, distinct => by
    rw [List.map_cons, List.nodup_cons] at distinct
    by_cases hx : x.filter = f
    · -- `x` is the entry of `f`, and no later entry has its filter
      have rest : l.filter (·.filter != f) = l := by
        rw [List.filter_eq_self]
        intro y hy
        have : y.filter ≠ x.filter := fun same => distinct.1 (List.mem_map.mpr ⟨y, hy, same⟩)
        simpa [hx] using this
      simp [hx, rest]
    · simp [hx, filter_ne_eq_eraseP f l distinct.2]

/-! ## Calls that change the table -/

section Calls

variable (t : SubscriptionTable H) (e : Subscription.Entry H)

theorem add_of_empty (empty : e.filter = []) : t.add e = .error (.of .missingArgument) := by
  simp [add, empty]

theorem add_of_present (nonempty : e.filter ≠ []) (present : ∃ x ∈ t.entries, x.filter = e.filter) :
    t.add e = .ok (false, t) := by
  have found : t.contains e.filter = true := (t.contains_iff _).mpr present
  simp [add, nonempty, found]

theorem add_of_full (nonempty : e.filter ≠ []) (absent : ∀ x ∈ t.entries, x.filter ≠ e.filter)
    (full : t.capacity ≤ t.entries.length) : t.add e = .error (.of .noCapacity) := by
  have missing : t.contains e.filter = false := by
    simpa [contains] using absent
  simp [add, nonempty, missing, full]

theorem add_of_room (nonempty : e.filter ≠ []) (absent : ∀ x ∈ t.entries, x.filter ≠ e.filter)
    (room : t.entries.length < t.capacity) :
    t.add e = .ok (true, { t with entries := t.entries ++ [e] }) := by
  have missing : t.contains e.filter = false := by
    simpa [contains] using absent
  simp [add, nonempty, missing, Nat.not_le.mpr room]

@[simp] theorem capacity_remove (f : Bytes) : (t.remove f).2.capacity = t.capacity := by
  unfold remove
  split <;> rfl

theorem remove_of_absent {f : Bytes} (absent : ∀ x ∈ t.entries, x.filter ≠ f) :
    t.remove f = (false, t) := by
  have missing : t.contains f = false := by
    simpa [contains] using absent
  simp [remove, missing]

/-- Removing a filter whose entry stands between `before` and `after` splices it out. -/
theorem remove_of_entry {f : Bytes} {before after : List (Subscription.Entry H)}
    (split : t.entries = before ++ e :: after) (named : e.filter = f)
    (distinct : (t.entries.map (·.filter)).Nodup) :
    t.remove f = (true, { t with entries := before ++ after }) := by
  have found : t.contains f = true := (t.contains_iff f).mpr ⟨e, by simp [split], named⟩
  -- the entries before `e` do not have its filter, so the first one with it is `e`
  have earlier : ∀ x ∈ before, ¬ (x.filter == f) = true := by
    intro x hx same
    rw [split, List.map_append, List.map_cons, List.nodup_append] at distinct
    exact distinct.2.2 x.filter (List.mem_map_of_mem hx) e.filter (by simp)
      (by simpa [named] using same)
  simp only [remove, found, if_true]
  rw [filter_ne_eq_eraseP f t.entries distinct, split, List.eraseP_append_right _ earlier,
    List.eraseP_cons_of_pos (by simp [named])]

end Calls

/-! ## The refinement -/

/-- `Refines cap l t`: the table `t` of capacity `cap` holds the list `l`, whose filters are
pairwise distinct and which has at most `cap` entries. -/
structure Refines (cap : Nat) (l : List (Subscription.Entry H)) (t : SubscriptionTable H) : Prop where
  entries : t.entries = l
  capacity : t.capacity = cap
  distinct : (l.map (·.filter)).Nodup
  bounded : l.length ≤ cap

/-- A new table refines the empty list, with the capacity asked for or the default. -/
theorem refines_create (max : Int) :
    Refines (if max ≤ 0 then defaultMaxSubscriptions else max.toNat) [] (create max : SubscriptionTable H) :=
  ⟨rfl, rfl, List.nodup_nil, Nat.zero_le _⟩

namespace Refines

variable {cap : Nat} {l : List (Subscription.Entry H)} {t : SubscriptionTable H}

theorem add (h : Refines cap l t) (e : Subscription.Entry H) :
    Refines cap (Model.step cap l (.add e)) (t.apply (.add e)) := by
  obtain ⟨rfl, rfl, distinct, bounded⟩ := h
  by_cases appended : e.filter ≠ [] ∧ (∀ x ∈ t.entries, x.filter ≠ e.filter) ∧
      t.entries.length < t.capacity
  · obtain ⟨nonempty, absent, room⟩ := appended
    rw [Model.step, if_pos ⟨nonempty, absent, room⟩, apply, add_of_room t e nonempty absent room]
    refine ⟨rfl, rfl, ?_, by rw [List.length_append, List.length_singleton]; exact room⟩
    -- the new filter is none of the old ones
    rw [List.map_append, List.nodup_append]
    exact ⟨distinct, List.pairwise_singleton _ _, by simpa using fun x hx same => absent x hx same⟩
  · -- the call is refused, or reports its filter present: the table stays as it was
    have same : t.apply (.add e) = t := by
      by_cases empty : e.filter = []
      · simp [apply, add_of_empty t e empty]
      by_cases present : ∃ x ∈ t.entries, x.filter = e.filter
      · simp [apply, add_of_present t e empty present]
      · have absent : ∀ x ∈ t.entries, x.filter ≠ e.filter := by simpa using present
        have full : t.capacity ≤ t.entries.length :=
          Nat.not_lt.mp fun room => appended ⟨empty, absent, room⟩
        simp [apply, add_of_full t e empty absent full]
    rw [Model.step, if_neg appended, same]
    exact ⟨rfl, rfl, distinct, bounded⟩

theorem remove (h : Refines cap l t) (f : Bytes) :
    Refines cap (Model.step cap l (.remove f)) (t.apply (.remove f)) := by
  obtain ⟨rfl, rfl, distinct, bounded⟩ := h
  have erased : (t.remove f).2.entries = t.entries.eraseP (·.filter == f) := by
    unfold SubscriptionTable.remove
    split
    · exact filter_ne_eq_eraseP f t.entries distinct
    · -- no entry has the filter, so there is nothing to erase
      rename_i missing
      refine (List.eraseP_of_forall_not ?_).symm
      simpa [contains] using missing
  refine ⟨erased, capacity_remove t f, ?_, ?_⟩
  · exact distinct.sublist ((List.eraseP_sublist).map _)
  · exact Nat.le_trans List.eraseP_sublist.length_le bounded

theorem clear (h : Refines cap l t) :
    Refines cap (Model.step cap l .clear) (t.apply .clear) :=
  ⟨rfl, h.capacity, List.nodup_nil, Nat.zero_le _⟩

/-- One call keeps the table refining its model. -/
theorem step (h : Refines cap l t) : ∀ u : Update H, Refines cap (Model.step cap l u) (t.apply u)
  | .add e => h.add e
  | .remove f => h.remove f
  | .clear => h.clear

/-- What each call answers on a table that refines `l`: an empty filter and a full table are
refused, a filter already present is reported and changes nothing even when the table is full,
a removal splices out the one entry of its filter, and a dispatch counts the matching entries
and hands over their handlers in table order. -/
structure Answers (cap : Nat) (l : List (Subscription.Entry H)) (t : SubscriptionTable H) : Prop where
  add_empty : ∀ e : Subscription.Entry H, e.filter = [] → t.add e = .error (.of .missingArgument)
  add_present : ∀ e : Subscription.Entry H, e.filter ≠ [] → (∃ x ∈ l, x.filter = e.filter) →
    t.add e = .ok (false, t)
  add_full : ∀ e : Subscription.Entry H, e.filter ≠ [] → (∀ x ∈ l, x.filter ≠ e.filter) →
    cap ≤ l.length → t.add e = .error (.of .noCapacity)
  add_room : ∀ e : Subscription.Entry H, e.filter ≠ [] → (∀ x ∈ l, x.filter ≠ e.filter) →
    l.length < cap → t.add e = .ok (true, { t with entries := l ++ [e] })
  remove_entry : ∀ (e : Subscription.Entry H) before after, l = before ++ e :: after →
    t.remove e.filter = (true, { t with entries := before ++ after })
  remove_absent : ∀ f, (∀ x ∈ l, x.filter ≠ f) → t.remove f = (false, t)
  dispatch : ∀ m : Message,
    t.dispatch m = ((l.filter (Topic.filterMatches ·.filter m.topic)).length,
      (l.filter (Topic.filterMatches ·.filter m.topic)).filterMap (·.handler))

theorem answers (h : Refines cap l t) : Answers cap l t := by
  obtain ⟨rfl, rfl, distinct, -⟩ := h
  exact {
    add_empty := add_of_empty t
    add_present := add_of_present t
    add_full := add_of_full t
    add_room := add_of_room t
    remove_entry := fun e _ _ split => remove_of_entry t e split rfl distinct
    remove_absent := fun _ absent => remove_of_absent t absent
    dispatch := fun _ => rfl }

end Refines

/-- Any sequence of calls keeps a table refining its model. -/
theorem refines_run {cap : Nat} {l : List (Subscription.Entry H)} {t : SubscriptionTable H}
    (h : Refines cap l t) (us : List (Update H)) :
    Refines cap (us.foldl (Model.step cap) l) (us.foldl apply t) := by
  induction us generalizing l t with
  | nil => exact h
  | cons u us ih => exact ih (h.step u)

/-- A table made for `max` entries, after any sequence of calls, holds what the list model holds
and answers every call as a bounded ordered set: its filters are pairwise distinct, it never
holds more than `max` entries (four when `max` is not positive), an addition is refused for an
empty filter or a full table and reported for a filter already present, a removal splices out
the one entry of its filter, and a dispatch counts the matching entries and hands over their
handlers, each once, in table order. -/
theorem boundedSet_refinement (max : Int) (us : List (Update H)) :
    Refines (if max ≤ 0 then defaultMaxSubscriptions else max.toNat)
        (us.foldl (Model.step (if max ≤ 0 then defaultMaxSubscriptions else max.toNat)) [])
        (us.foldl apply (create max)) ∧
      Refines.Answers (if max ≤ 0 then defaultMaxSubscriptions else max.toNat)
        (us.foldl (Model.step (if max ≤ 0 then defaultMaxSubscriptions else max.toNat)) [])
        (us.foldl apply (create max)) := by
  have reached := refines_run (@refines_create H max) us
  exact ⟨reached, reached.answers⟩

end SubscriptionTable

end Mqtt
