import Mathlib.Control.Monad.Basic
import Mqtt.Topic
/-! # Topic matching, level by level

`Topic.filterMatches` walks a filter and a topic one level at a time, with separate exits for a
`#` level, a `+` level, both running out together, and the topic running out first.
`Topic.LevelsMatch` states the rule of MQTT on the lists of levels alone: `#` matches whatever
remains, nothing included; `+` matches one level that is not empty; any other level matches
itself. The main statement, `filterMatches_iff`, says that on a valid filter and a valid topic
name the walk decides exactly this rule, except that a filter that starts with a wildcard never
matches a topic that starts with `$`.

The walk is compared with the rule on non-empty lists of levels (`matchLevels_iff`), by induction
on the filter's levels: the topic running out first is the one place where the walk looks ahead,
and there the rule allows only a last `#`.
-/

namespace Mqtt

namespace Topic

/-- The MQTT rule for a filter's levels to match a topic's levels. -/
inductive LevelsMatch : List Bytes → List Bytes → Prop
  /-- `#` matches all the remaining levels, none included. -/
  | rest (ts : List Bytes) : LevelsMatch [[hash]] ts
  | nil : LevelsMatch [] []
  /-- `+` matches exactly one level, which must not be empty. -/
  | one {t : Bytes} {fs ts : List Bytes} (nonempty : t ≠ []) (more : LevelsMatch fs ts) :
      LevelsMatch ([plus] :: fs) (t :: ts)
  /-- A level that is not a wildcard matches itself. -/
  | same {l : Bytes} {fs ts : List Bytes} (notPlus : l ≠ [plus]) (notHash : l ≠ [hash])
      (more : LevelsMatch fs ts) : LevelsMatch (l :: fs) (l :: ts)

namespace LevelsMatch

theorem nil_left_iff {ts : List Bytes} : LevelsMatch [] ts ↔ ts = [] := by
  constructor
  · intro h
    cases h
    rfl
  · rintro rfl
    exact .nil

theorem nil_right_iff {fs : List Bytes} : LevelsMatch fs [] ↔ fs = [] ∨ fs = [[hash]] := by
  constructor
  · intro h
    cases h with
    | rest => exact .inr rfl
    | nil => exact .inl rfl
  · rintro (rfl | rfl)
    · exact .nil
    · exact .rest []

theorem cons_cons_iff {f t : Bytes} {fs ts : List Bytes} :
    LevelsMatch (f :: fs) (t :: ts) ↔
      (f = [hash] ∧ fs = []) ∨ (f = [plus] ∧ t ≠ [] ∧ LevelsMatch fs ts) ∨
        (f ≠ [plus] ∧ f ≠ [hash] ∧ f = t ∧ LevelsMatch fs ts) := by
  constructor
  · intro h
    cases h with
    | rest => exact .inl ⟨rfl, rfl⟩
    | one nonempty more => exact .inr (.inl ⟨rfl, nonempty, more⟩)
    | same notPlus notHash more => exact .inr (.inr ⟨notPlus, notHash, rfl, more⟩)
  · rintro (⟨rfl, rfl⟩ | ⟨rfl, nonempty, more⟩ | ⟨notPlus, notHash, rfl, more⟩)
    · exact .rest _
    · exact .one nonempty more
    · exact .same notPlus notHash more

end LevelsMatch

theorem levels_ne_nil (s : Bytes) : levels s ≠ [] := List.splitOn_ne_nil _ _

theorem checkChars_ne_nil {s : Bytes} {c : Condition} (h : checkChars s c = .ok ()) : s ≠ [] := by
  rintro rfl
  simp [checkChars] at h

theorem validateName_ne_nil {s : Bytes} (h : validateName s = .ok ()) : s ≠ [] := by
  cases hc : checkChars s .invalidTopicName with
  | error e => simp [validateName, hc, bind, Except.bind] at h
  | ok u => exact checkChars_ne_nil hc

theorem validateFilter_ne_nil {s : Bytes} (h : validateFilter s = .ok ()) : s ≠ [] := by
  cases hc : checkChars s .invalidTopicFilter with
  | error e => simp [validateFilter, hc, bind, Except.bind] at h
  | ok u => exact checkChars_ne_nil hc

theorem hash_ne_plus : hash ≠ plus := by decide

/-- The walk decides the rule on non-empty lists of levels. -/
theorem matchLevels_iff (f t : Bytes) (fs ts : List Bytes) :
    matchLevels (f :: fs) (t :: ts) = true ↔ LevelsMatch (f :: fs) (t :: ts) := by
  induction fs generalizing f t ts with
  | nil =>
    -- the filter's last level: the topic must end here too, unless the level is `#`
    rw [LevelsMatch.cons_cons_iff, LevelsMatch.nil_left_iff, matchLevels.eq_def]
    by_cases hh : f = [hash]
    · simp [hh]
    by_cases hp : f = [plus]
    · cases ts <;> simp [hp, hash_ne_plus.symm]
    · cases ts <;> simp [hh, hp]
  | cons g gs ih =>
    rw [LevelsMatch.cons_cons_iff, matchLevels.eq_def]
    by_cases hh : f = [hash]
    · simp [hh, hash_ne_plus]
    cases ts with
    | nil =>
      -- the topic ran out first: only a last `#` still matches
      rw [LevelsMatch.nil_right_iff]
      by_cases hp : f = [plus]
      · simp [hp, hash_ne_plus.symm]
      · simp [hh, hp]
    | cons u us =>
      by_cases hp : f = [plus]
      · simp [hp, hash_ne_plus.symm, ih]
      · simp [hh, hp, ih]

/-- Level-wise MQTT matching: on a valid filter and a valid topic name, the filter matches the
topic exactly when their levels match by the rule and the topic is not a `$` topic facing a
filter that starts with a wildcard. -/
theorem filterMatches_iff {filter topic : Bytes} (hf : validateFilter filter = .ok ())
    (ht : validateName topic = .ok ()) :
    filterMatches filter topic = true ↔
      ¬ (topic.head? = some 0x24 ∧ (filter.head? = some plus ∨ filter.head? = some hash)) ∧
        LevelsMatch (levels filter) (levels topic) := by
  have filled : filter ≠ [] := validateFilter_ne_nil hf
  have named : topic ≠ [] := validateName_ne_nil ht
  obtain ⟨f, fs, hfs⟩ := List.exists_cons_of_ne_nil (levels_ne_nil filter)
  obtain ⟨t, ts, hts⟩ := List.exists_cons_of_ne_nil (levels_ne_nil topic)
  rw [filterMatches, hfs, hts, ← matchLevels_iff]
  simp [filled, named, isSystem, imp_iff_not_or]

/-- `a/#` matches `a`: `#` matches no level at all. -/
theorem filterMatches_hashMatchesParent :
    validateFilter (Bytes.ofString "a/#") = .ok () ∧ validateName (Bytes.ofString "a") = .ok () ∧
      (filterMatches (Bytes.ofString "a/#") (Bytes.ofString "a") = true ↔
        ¬ ((Bytes.ofString "a").head? = some 0x24 ∧
          ((Bytes.ofString "a/#").head? = some plus ∨ (Bytes.ofString "a/#").head? = some hash)) ∧
          LevelsMatch (levels (Bytes.ofString "a/#")) (levels (Bytes.ofString "a"))) :=
  ⟨by decide +kernel, by decide +kernel, filterMatches_iff (by decide +kernel) (by decide +kernel)⟩

example : filterMatches (Bytes.ofString "a/#") (Bytes.ofString "a") = true := by decide +kernel

example : filterMatches (Bytes.ofString "a/+") (Bytes.ofString "a/") = false := by decide +kernel

example : filterMatches (Bytes.ofString "+/x") (Bytes.ofString "$SYS/x") = false := by decide +kernel

end Topic

end Mqtt
