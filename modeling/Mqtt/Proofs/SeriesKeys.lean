import Mqtt.Metrics.Store
/-! # Series keys

A metric store keys every series by one text: the metric name, then `|name=value` for each
label, labels ordered by name. Nothing in that text is escaped, so a name or a label may spell
the separators itself, and two series then share one key and one value
(`labelsKey_confuses_name_and_label`).

The key still tells series apart whenever the separators cannot be read as text: the metric
name holds no `|`, no label name holds `=` and no label value holds `|` (`PlainSeries`). The
key is then read back from left to right: the name ends at the first `|`, a label name at the
next `=`, a label value at the next `|` or at the end. That reading is `append_inj_of_sep`,
applied once per separator.

* `labelsKey_determines_series`: two plain series with one key have the same name and the same
  labels, up to the order in which the labels were given.
* `MetricStore.writes_keep_other_series`: so a write to one plain series leaves the value of
  every other plain series as it was.
-/

namespace Mqtt

/-! ## Cutting at a separator -/

/-- Whether a text is empty or starts with `c`: what may follow a field that ends at `c`. -/
def StartsAt (c : Char) (x : List Char) : Prop := ∀ d ∈ x.head?, d = c

/-- A field free of `c`, followed by a text that is empty or starts with `c`, is determined by
the concatenation: the field ends where the first `c` stands. -/
theorem append_inj_of_sep {c : Char} {a b x y : List Char} (ha : c ∉ a) (hb : c ∉ b)
    (hx : StartsAt c x) (hy : StartsAt c y) (h : a ++ x = b ++ y) : a = b ∧ x = y := by
  induction a generalizing b with
  | nil =>
    cases b with
    | nil => exact ⟨rfl, h⟩
    | cons e b =>
      -- `x` starts with `e`, which is not `c`, although `x` may only start with `c`
      have : e = c := hx e (by rw [List.nil_append] at h; simp [h])
      simp_all
  | cons d a ih =>
    cases b with
    | nil =>
      have : d = c := hy d (by rw [List.nil_append] at h; simp [← h])
      simp_all
    | cons e b =>
      obtain ⟨rfl, rest⟩ := List.cons_eq_cons.mp h
      obtain ⟨rfl, rfl⟩ := ih (by simp_all) (by simp_all) rest
      exact ⟨rfl, rfl⟩

/-! ## The key as characters -/

/-- The labels part of a key: `|name=value` for each label, in the order given. -/
def Labels.chars (l : Labels) : List Char :=
  l.flatMap fun p => '|' :: (p.1.toList ++ '=' :: p.2.toList)

@[simp] theorem Labels.chars_nil : Labels.chars [] = [] := rfl

@[simp] theorem Labels.chars_cons (k v : String) (l : Labels) :
    Labels.chars ((k, v) :: l) = '|' :: (k.toList ++ '=' :: (v.toList ++ Labels.chars l)) := by
  simp [Labels.chars]

theorem Labels.startsAt_chars (l : Labels) : StartsAt '|' (Labels.chars l) := by
  cases l with
  | nil => simp [StartsAt]
  | cons p l => simp [StartsAt, Labels.chars]

/-- Writing the labels one after the other onto a text appends their characters. -/
theorem Labels.foldl_key_toList (l : Labels) (init : String) :
    (l.foldl (fun acc p => acc ++ "|" ++ p.1 ++ "=" ++ p.2) init).toList =
      init.toList ++ Labels.chars l := by
  induction l generalizing init with
  | nil => simp
  | cons p l ih =>
    obtain ⟨k, v⟩ := p
    simp [ih]

theorem labelsKey_toList (name : String) (labels : Labels) :
    (labelsKey name labels).toList = name.toList ++ Labels.chars labels.sorted :=
  Labels.foldl_key_toList _ name

/-! ## Reading a key back -/

/-- Labels whose separators cannot be read as text: no label name holds `=` and no label value
holds `|`. -/
def Labels.Plain (l : Labels) : Prop := ∀ p ∈ l, '=' ∉ p.1.toList ∧ '|' ∉ p.2.toList

/-- A series whose key can be read back: a metric name without `|` and plain labels. -/
def PlainSeries (name : String) (labels : Labels) : Prop := '|' ∉ name.toList ∧ labels.Plain

theorem Labels.plain_cons {k v : String} {l : Labels} :
    Labels.Plain ((k, v) :: l) ↔ ('=' ∉ k.toList ∧ '|' ∉ v.toList) ∧ l.Plain := by
  simp [Labels.Plain]

theorem Labels.Plain.sorted {l : Labels} (h : l.Plain) : l.sorted.Plain :=
  fun p mem => h p ((List.mergeSort_perm l _).mem_iff.mp mem)

/-- Plain labels are determined by their characters, order included. -/
theorem Labels.chars_inj {l₁ l₂ : Labels} (h₁ : l₁.Plain) (h₂ : l₂.Plain)
    (h : Labels.chars l₁ = Labels.chars l₂) : l₁ = l₂ := by
  induction l₁ generalizing l₂ with
  | nil =>
    cases l₂ with
    | nil => rfl
    | cons q l₂ => simp [Labels.chars] at h
  | cons p l₁ ih =>
    cases l₂ with
    | nil => simp [Labels.chars] at h
    | cons q l₂ =>
      obtain ⟨k₁, v₁⟩ := p
      obtain ⟨k₂, v₂⟩ := q
      obtain ⟨hp₁, t₁⟩ := Labels.plain_cons.mp h₁
      obtain ⟨hp₂, t₂⟩ := Labels.plain_cons.mp h₂
      simp only [Labels.chars_cons, List.cons.injEq, true_and] at h
      -- the label name ends at the first `=`
      obtain ⟨hk, h⟩ := append_inj_of_sep hp₁.1 hp₂.1 (by simp [StartsAt])
        (by simp [StartsAt]) h
      simp only [List.cons.injEq, true_and] at h
      -- the label value ends at the next `|`, or at the end of the key
      obtain ⟨hv, h⟩ := append_inj_of_sep hp₁.2 hp₂.2 (Labels.startsAt_chars l₁)
        (Labels.startsAt_chars l₂) h
      rw [String.toList_inj.mp hk, String.toList_inj.mp hv, ih t₁ t₂ h]

/-- Two plain series with one key are one series: the same metric name, and the same labels up
to the order in which they were given. -/
theorem labelsKey_determines_series {n₁ n₂ : String} {l₁ l₂ : Labels}
    (h₁ : PlainSeries n₁ l₁) (h₂ : PlainSeries n₂ l₂) (same : labelsKey n₁ l₁ = labelsKey n₂ l₂) :
    n₁ = n₂ ∧ l₁.Perm l₂ := by
  have chars := congrArg String.toList same
  rw [labelsKey_toList, labelsKey_toList] at chars
  -- the metric name ends at the first `|`
  obtain ⟨hn, hl⟩ := append_inj_of_sep h₁.1 h₂.1 (Labels.startsAt_chars _)
    (Labels.startsAt_chars _) chars
  have sorted := Labels.chars_inj h₁.2.sorted h₂.2.sorted hl
  refine ⟨String.toList_inj.mp hn, ?_⟩
  calc List.Perm l₁ l₁.sorted := (List.mergeSort_perm l₁ _).symm
    _ = l₂.sorted := sorted
    List.Perm _ l₂ := List.mergeSort_perm l₂ _

/-- The same labels given in two orders, one value holding `=`. -/
theorem labelsKey_determines_series_reordered :
    PlainSeries "umqtt_packets_sent_total" [("packet_type", "PUBLISH"), ("client_id", "a=b")] ∧
    PlainSeries "umqtt_packets_sent_total" [("client_id", "a=b"), ("packet_type", "PUBLISH")] ∧
    labelsKey "umqtt_packets_sent_total" [("packet_type", "PUBLISH"), ("client_id", "a=b")] =
      labelsKey "umqtt_packets_sent_total" [("client_id", "a=b"), ("packet_type", "PUBLISH")] ∧
    ("umqtt_packets_sent_total" = "umqtt_packets_sent_total" ∧
      List.Perm [("packet_type", "PUBLISH"), ("client_id", "a=b")]
        [("client_id", "a=b"), ("packet_type", "PUBLISH")]) :=
  have h₁ : PlainSeries "umqtt_packets_sent_total"
      [("packet_type", "PUBLISH"), ("client_id", "a=b")] := by
    simp [PlainSeries, Labels.Plain]
  have h₂ : PlainSeries "umqtt_packets_sent_total"
      [("client_id", "a=b"), ("packet_type", "PUBLISH")] := by
    simp [PlainSeries, Labels.Plain]
  have same : labelsKey "umqtt_packets_sent_total" [("packet_type", "PUBLISH"), ("client_id", "a=b")] =
      labelsKey "umqtt_packets_sent_total" [("client_id", "a=b"), ("packet_type", "PUBLISH")] := by
    simp [labelsKey, Labels.sorted, List.mergeSort]
  ⟨h₁, h₂, same, labelsKey_determines_series h₁ h₂ same⟩

/-- A metric name that spells a label shares its key with the series of that label. -/
theorem labelsKey_confuses_name_and_label :
    labelsKey "a|b=c" [] = labelsKey "a" [("b", "c")] ∧ "a|b=c" ≠ "a" := by
  constructor
  · simp [labelsKey, Labels.sorted]
  · decide

/-! ## Series kept apart in a store -/

/-- Rewriting the entry of one series, in place, leaves what every other series reads as it
was. -/
theorem Series.lookup_map_of_ne {α : Type} (s : Series α) {key key' : String}
    (g : String × α → String × α) (keeps : ∀ p, (g p).1 = p.1) (fixes : ∀ p, p.1 ≠ key → g p = p)
    (apart : key ≠ key') : (s.map g).lookup key' = s.lookup key' := by
  induction s with
  | nil => rfl
  | cons p s ih =>
    obtain ⟨k, v⟩ := p
    obtain ⟨w, hw⟩ : ∃ w, g (k, v) = (k, w) := ⟨(g (k, v)).2, Prod.ext (keeps (k, v)) rfl⟩
    rw [List.map_cons, hw]
    by_cases hk : key' = k
    · -- the entry read is not the one rewritten
      subst hk
      have kept : g (key', v) = (key', v) := fixes (key', v) (Ne.symm apart)
      simp only [kept, Prod.mk.injEq, true_and] at hw
      rw [List.lookup_cons_self, List.lookup_cons_self, hw]
    · have skip : (key' == k) = false := by simpa using hk
      simp [List.lookup_cons, skip, ih]

/-- Updating one series leaves every other series as it was. -/
theorem Series.get?_update_of_ne {α : Type} (s : Series α) {key key' : String} (init : α)
    (f : α → α) (apart : key ≠ key') : (s.update key init f).get? key' = s.get? key' := by
  unfold Series.get?
  cases found : s.find? (·.1 == key) with
  | some _ =>
    simp only [Series.update, found]
    refine Series.lookup_map_of_ne s _ ?_ ?_ apart
    · rintro ⟨k, v⟩
      by_cases hk : k = key <;> simp [hk]
    · rintro ⟨k, v⟩ hk
      simp_all
  | none =>
    -- the series is new: it goes after every other one
    have skip : (key' == key) = false := by simpa using Ne.symm apart
    simp [Series.update, found, List.lookup_append, List.lookup_cons, skip]

/-- A write to one plain series leaves the value of every other plain series as it was, for
counters, gauges and histograms alike. -/
theorem MetricStore.writes_keep_other_series {n₁ n₂ : String} {l₁ l₂ : Labels}
    (h₁ : PlainSeries n₁ l₁) (h₂ : PlainSeries n₂ l₂) (other : ¬ (n₁ = n₂ ∧ l₁.Perm l₂))
    (m : MetricStore) (x : Float) :
    (m.counterAdd (labelsKey n₁ l₁) x).counterValue (labelsKey n₂ l₂) =
        m.counterValue (labelsKey n₂ l₂) ∧
      (m.gaugeAdd (labelsKey n₁ l₁) x).gaugeValue (labelsKey n₂ l₂) =
        m.gaugeValue (labelsKey n₂ l₂) ∧
      (m.gaugeSet (labelsKey n₁ l₁) x).gaugeValue (labelsKey n₂ l₂) =
        m.gaugeValue (labelsKey n₂ l₂) ∧
      (m.observe (labelsKey n₁ l₁) x).histogramCount (labelsKey n₂ l₂) =
        m.histogramCount (labelsKey n₂ l₂) := by
  have apart : labelsKey n₁ l₁ ≠ labelsKey n₂ l₂ := fun same =>
    other (labelsKey_determines_series h₁ h₂ same)
  simp [MetricStore.counterAdd, MetricStore.gaugeAdd, MetricStore.gaugeSet, MetricStore.observe,
    MetricStore.counterValue, MetricStore.gaugeValue, MetricStore.histogramCount,
    Series.get?_update_of_ne _ _ _ apart]

end Mqtt
