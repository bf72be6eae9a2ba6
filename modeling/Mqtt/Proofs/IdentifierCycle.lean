import Mqtt.Session.PacketIds
/-! # The cycle of packet identifiers

A source of packet identifiers counts up from the last identifier it handed out and goes from
65535 back to 1. Read as numbers, the identifiers of `k` calls are `(a + i) % 65535 + 1` for
`i < k`, where `a` is the last identifier before the first call, zero for a fresh source
(`PacketIds.take_toNat`). Everything about the sequence is read off that closed form:

* `PacketIds.ids_cycle`: from every state, no call returns 0; two calls return the same
  identifier exactly when their positions differ by a multiple of 65535; and any 65535
  consecutive calls return every identifier from 1 to 65535, each once.
-/

namespace Mqtt

namespace PacketIds

/-- One call hands out the successor of the last identifier, with 65535 followed by 1. -/
theorem next_toNat (s : PacketIds) : s.next.1.toNat = s.last.toNat % 65535 + 1 := by
  have bound := s.last.toNat_lt
  unfold next
  by_cases top : s.last = 65535
  · simp [top]
  · have below : s.last.toNat ≠ 65535 := fun h => top (UInt16.toNat_inj.mp h)
    simp [top, UInt16.toNat_add]
    omega

/-- The identifiers of `k` calls, as numbers: the `i`-th is `(a + i) % 65535 + 1`, where `a` is
the last identifier handed out before. -/
theorem take_toNat (s : PacketIds) (k : Nat) :
    (s.take k).1.map UInt16.toNat = (List.range k).map fun i => (s.last.toNat + i) % 65535 + 1 := by
  induction k generalizing s with
  | zero => rfl
  | succ k ih =>
    -- the first call, then `k` calls from the identifier it handed out
    have rest := ih s.next.2
    have handed : s.next.2.last.toNat = s.last.toNat % 65535 + 1 := next_toNat s
    simp only [take, List.map_cons, rest, handed, next_toNat, List.range_succ_eq_map,
      List.map_map]
    refine List.cons_eq_cons.mpr ⟨by simp, List.map_congr_left fun i _ => ?_⟩
    simp only [Function.comp_apply, Nat.succ_eq_add_one]
    omega

theorem take_getElem?_toNat (s : PacketIds) {k i : Nat} (h : i < k) :
    (s.take k).1[i]?.map UInt16.toNat = some ((s.last.toNat + i) % 65535 + 1) := by
  rw [← List.getElem?_map, take_toNat, List.getElem?_map, List.getElem?_range h]
  rfl

/-- From every state no call returns 0, two calls return the same identifier exactly when their
positions differ by a multiple of 65535, and any 65535 consecutive calls return every identifier
from 1 to 65535. -/
theorem ids_cycle (s : PacketIds) (k : Nat) :
    0 ∉ (s.take k).1 ∧
      (∀ i j, i < k → j < k → ((s.take k).1[i]? = (s.take k).1[j]? ↔ i % 65535 = j % 65535)) ∧
      ∀ i, i + 65535 ≤ k → ∀ id : UInt16, id ≠ 0 →
        ∃ j, i ≤ j ∧ j < i + 65535 ∧ (s.take k).1[j]? = some id := by
  have toNat_injective : ∀ x y : UInt16, x.toNat = y.toNat → x = y :=
    fun _ _ h => UInt16.toNat_inj.mp h
  refine ⟨?nonzero, ?repeats, ?covers⟩
  case nonzero =>
    intro mem
    have shown := List.mem_map_of_mem (f := UInt16.toNat) mem
    rw [take_toNat] at shown
    simp at shown
  case repeats =>
    intro i j hi hj
    rw [← Option.map_inj_right toNat_injective, take_getElem?_toNat s hi,
      take_getElem?_toNat s hj, Option.some.injEq]
    omega
  case covers =>
    intro i room id nonzero
    have positive : 0 < id.toNat := by
      have : id.toNat ≠ 0 := fun h => nonzero (toNat_injective id 0 h)
      omega
    have bound := id.toNat_lt
    -- the call at offset `d` from `i` hands out `id`
    let d := (id.toNat - 1 + 65535 - (s.last.toNat + i) % 65535) % 65535
    have hits : (s.last.toNat + (i + d)) % 65535 + 1 = id.toNat := by omega
    obtain ⟨x, found, value⟩ := Option.map_eq_some_iff.mp
      (take_getElem?_toNat s (show i + d < k by omega))
    refine ⟨i + d, by omega, by omega, ?_⟩
    rw [found, toNat_injective x id (value.trans hits)]

/-- From the identifier 65535, the first call and the 65536-th hand out the same identifier, and
the first 65535 calls hand out 65535 itself. -/
theorem ids_cycle_fromTop :
    (0 < 65536 ∧ 65535 < 65536 ∧
      ((⟨65535⟩ : PacketIds).take 65536).1[0]? = ((⟨65535⟩ : PacketIds).take 65536).1[65535]?) ∧
    (0 + 65535 ≤ 65536 ∧ (65535 : UInt16) ≠ 0 ∧
      ∃ j, 0 ≤ j ∧ j < 0 + 65535 ∧ ((⟨65535⟩ : PacketIds).take 65536).1[j]? = some 65535) :=
  ⟨⟨by decide, by decide,
      ((ids_cycle ⟨65535⟩ 65536).2.1 0 65535 (by decide) (by decide)).mpr (by decide)⟩,
    ⟨by decide, by decide, (ids_cycle ⟨65535⟩ 65536).2.2 0 (by decide) 65535 (by decide)⟩⟩

end PacketIds

end Mqtt
