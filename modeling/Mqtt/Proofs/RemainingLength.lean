import Mqtt.Proofs.CanonicalFrames
/-! # Remaining lengths, written and read

The remaining length of a frame goes on the wire in seven-bit groups, least significant first,
with the high bit set on every byte but the last; the reader takes at most four bytes. Here the
writer and the reader are settled against each other over every value and every input.

* `Field.putLength_ok_iff`: writing into a buffer succeeds exactly when the value fits 28 bits
  and the buffer holds its `lengthSize` bytes, and then it writes the writer's groups.
* `Reading.length_eq_ok`: whatever the reader accepts starts with a spelling, of at most four
  bytes, of the value it returns.
* `LengthSpelling.eq_lengthGroups_iff`: a spelling is the one the writer makes exactly when it is
  one byte long or its last byte is not zero.
* `Reading.length32_eq`: the reader done in 32-bit words answers as the reader does, so its sums
  never wrap on a length it accepts.
* `remainingLength_codec` puts these together.
-/

namespace Mqtt

/-! ## Writing into a buffer -/

theorem Field.putLength_eq_ok {v cap : Nat} (hv : v ≤ maxRemainingLength)
    (hcap : Field.lengthSize v ≤ cap) : Field.putLength v cap = .ok (Field.lengthGroups v) := by
  have hlen := Field.length_lengthGroups hv
  have hfits : (Field.lengthGroups v).length ≤ cap := hlen ▸ hcap
  simp [Field.putLength, hfits, show ¬ v > maxRemainingLength by omega]

/-- Writing a remaining length into a buffer succeeds exactly when the value has at most 28 bits
and the buffer has room for all of its groups. -/
theorem Field.putLength_ok_iff (v cap : Nat) :
    (Field.putLength v cap).failure = none ↔ v ≤ maxRemainingLength ∧ Field.lengthSize v ≤ cap := by
  by_cases hv : v ≤ maxRemainingLength
  · rw [← Field.length_lengthGroups hv]
    by_cases hcap : (Field.lengthGroups v).length ≤ cap
    · simp [Field.putLength, hcap, hv, Emission.ok, show ¬ v > maxRemainingLength by omega]
    · simp [Field.putLength, hcap, show ¬ v > maxRemainingLength by omega]
  · simp [Field.putLength, Emission.fail, show v > maxRemainingLength by omega, hv]

/-! ## What the reader accepts -/

/-- Whatever the reader accepts starts with a spelling of the value it returns, in at most four
bytes, and it stops right after that spelling. -/
theorem Reading.length_eq_ok {s rest : Bytes} {v : Nat} (h : Reading.length s = .ok v rest) :
    ∃ bs, s = bs ++ rest ∧ LengthSpelling bs v ∧ bs.length ≤ 4 := by
  rcases LengthSpelling.front 3 s with ⟨bs, w, after, spelled, short, rfl⟩ | ⟨short, high⟩ |
      ⟨cs, after, len, high, rfl⟩
  · -- a whole spelling: the reader returns its value and what follows it
    rw [Reading.length_spelling spelled short after] at h
    cases h
    exact ⟨bs, rfl, spelled, short⟩
  · -- fewer than four bytes that all continue: the reader runs out of bytes
    obtain ⟨w, spelled⟩ := LengthSpelling.of_continued s high
    have cut := Reading.lengthGroups_cut spelled rfl (List.cons_ne_nil 0 []) 4 1 0 (by omega)
    simp [Reading.length, cut] at h
  · -- four bytes that all continue: the reader refuses them
    have malformed := Reading.lengthGroups_continued after cs 3 1 0 len high
    simp [Reading.length, malformed] at h

/-! ## The shortest spelling -/

/-- A spelling of two or more bytes ends in a zero byte exactly when its value fits in one byte
fewer. -/
theorem LengthSpelling.getLast_ne_zero_iff {bs : Bytes} {v : Nat} (h : LengthSpelling bs v)
    (two : 2 ≤ bs.length) : bs.getLast? ≠ some 0 ↔ Nat.pow 128 (bs.length - 1) ≤ v := by
  induction h with
  | last hb => simp at two
  | @group b bs w hb rest ih =>
    have hlow : b.toNat % 128 < 128 := Nat.mod_lt _ (by decide)
    cases rest with
    | @last c hc =>
      -- two bytes: the value reaches 128 exactly when the second byte is not zero
      have hc0 : c ≠ 0 ↔ c.toNat ≠ 0 := by
        rw [ne_eq, ne_eq, ← UInt8.toNat_inj]
        rfl
      simp only [List.getLast?_cons_cons, List.getLast?_singleton, ne_eq, Option.some.injEq,
        List.length_cons, List.length_nil]
      rw [← ne_eq, hc0]
      show c.toNat ≠ 0 ↔ 128 ≤ b.toNat % 128 + 128 * c.toNat
      omega
    | @group c cs u hc rest' =>
      -- more bytes: the last byte is the last of the rest, whose value is `w`
      have hrest := ih (by have := rest'.length_pos; simp only [List.length_cons]; omega)
      have hpow : Nat.pow 128 (c :: cs).length = 128 * Nat.pow 128 ((c :: cs).length - 1) := by
        simp only [List.length_cons, Nat.add_sub_cancel]
        exact Nat.pow_succ'
      rw [List.getLast?_cons_cons, hrest]
      simp only [List.length_cons, Nat.add_sub_cancel] at hpow ⊢
      rw [hpow]
      omega

/-- The number of bytes the writer uses for a value below `128 ^ k`, for `k` up to four, is `k`
exactly when the value needs all `k` of them. -/
theorem Field.lengthSize_eq_iff {v k : Nat} (hk : 1 ≤ k) (hk4 : k ≤ 4) (hv : v < Nat.pow 128 k) :
    k = Field.lengthSize v ↔ k = 1 ∨ Nat.pow 128 (k - 1) ≤ v := by
  rcases (by omega : k = 1 ∨ k = 2 ∨ k = 3 ∨ k = 4) with rfl | rfl | rfl | rfl <;>
    simp only [Field.lengthSize] at hv ⊢ <;> split_ifs <;> simp_all <;> omega

/-- A spelling of at most four bytes is the one the writer makes exactly when it is the shortest:
a single byte, or a last byte that is not zero. -/
theorem LengthSpelling.eq_lengthGroups_iff {bs : Bytes} {v : Nat} (h : LengthSpelling bs v)
    (short : bs.length ≤ 4) :
    Field.lengthGroups v = bs ↔ bs.length = 1 ∨ bs.getLast? ≠ some 0 := by
  have hv := h.le_max short
  have written : Field.lengthGroups v = bs ↔ bs.length = Field.lengthSize v :=
    ⟨fun e => by rw [← e, Field.length_lengthGroups hv], fun e => (h.eq_lengthGroups short e).symm⟩
  rw [written, Field.lengthSize_eq_iff h.length_pos short h.lt_pow]
  by_cases one : bs.length = 1
  · simp [one]
  · rw [or_iff_right one, or_iff_right one,
      h.getLast_ne_zero_iff (by have := h.length_pos; omega)]

/-! ## The reader in 32-bit words -/

/-- The remaining-length reader done in 32-bit words: each byte adds its low seven bits times the
multiplier to the value, and the multiplier grows by 128 after each byte that continues. -/
def Reading.lengthGroups32 : Nat → UInt32 → UInt32 → Reading UInt32
  | 0, _, acc => pure acc
  | k + 1, scale, acc => do
    let b ← byte
    let acc := acc + (b &&& 0x7F).toUInt32 * scale
    if b &&& 0x80 == 0 then pure acc
    else if k == 0 then throw (.of .lengthMalformed)
    else lengthGroups32 k (scale * 128) acc

/-- Reads a remaining length of at most four bytes in 32-bit words. -/
def Reading.length32 : Reading UInt32 := Reading.lengthGroups32 4 1 0

/-- The answer of a reading of numbers, with its number taken to a 32-bit word. -/
def Reading.toWord : EStateM.Result Failure Bytes Nat → EStateM.Result Failure Bytes UInt32
  | .ok v r => .ok (UInt32.ofNat v) r
  | .error e r => .error e r

/-- Reading in 32-bit words gives, on every input, the word of what reading in numbers gives:
32-bit sums and products are those of numbers taken modulo `2 ^ 32`. -/
theorem Reading.lengthGroups32_eq (k scale acc : Nat) (s : Bytes) :
    Reading.lengthGroups32 k (UInt32.ofNat scale) (UInt32.ofNat acc) s =
      Reading.toWord (Reading.lengthGroups k scale acc s) := by
  induction k generalizing scale acc s with
  | zero => rfl
  | succ k ih =>
    cases s with
    | nil => rfl
    | cons b r =>
      have hbyte : (b &&& 0x7F).toUInt32 = UInt32.ofNat (b &&& 0x7F).toNat :=
        UInt32.toNat.inj (by simp)
      have hsum : UInt32.ofNat acc + (b &&& 0x7F).toUInt32 * UInt32.ofNat scale =
          UInt32.ofNat (acc + (b &&& 0x7F).toNat * scale) := by
        rw [UInt32.ofNat_add, UInt32.ofNat_mul, hbyte]
      have hscale : UInt32.ofNat scale * 128 = UInt32.ofNat (scale * 128) := by
        rw [UInt32.ofNat_mul]
        rfl
      simp only [Reading.lengthGroups32, Reading.lengthGroups, bind, EStateM.bind,
        Reading.byte_cons, hsum]
      split
      · rfl
      · split
        · rfl
        · rw [hscale, ih]

/-- The reader in 32-bit words accepts what the reader accepts, with a word whose value is the
length read: a remaining length never wraps a 32-bit word. -/
theorem Reading.length32_eq {s rest : Bytes} {v : Nat} (h : Reading.length s = .ok v rest) :
    Reading.length32 s = .ok (UInt32.ofNat v) rest ∧ (UInt32.ofNat v).toNat = v := by
  obtain ⟨bs, -, spelled, short⟩ := Reading.length_eq_ok h
  have hv := spelled.le_max short
  refine ⟨?_, ?_⟩
  · have := Reading.lengthGroups32_eq 4 1 0 s
    rw [show Reading.length32 s = Reading.lengthGroups32 4 (UInt32.ofNat 1) (UInt32.ofNat 0) s from rfl,
      this, show Reading.lengthGroups 4 1 0 s = Reading.length s from rfl, h]
    rfl
  · simp only [UInt32.toNat_ofNat']
    exact Nat.mod_eq_of_lt (by simp only [maxRemainingLength] at hv; omega)

/-! ## The remaining length as a whole -/

/-- The remaining length of a frame: writing it into a buffer succeeds exactly when the value
fits 28 bits and the buffer holds its `lengthSize` bytes; then it writes that many bytes, which
read back as the value whatever follows them. Conversely, whatever the reader accepts it takes
from at most four bytes, as a value of at most 28 bits that a 32-bit reader computes without
wrapping, and writing that value again gives back the bytes read exactly when they are the
shortest spelling: one byte, or a last byte that is not zero. -/
theorem remainingLength_codec :
    (∀ v cap, (Field.putLength v cap).failure = none ↔
      v ≤ maxRemainingLength ∧ Field.lengthSize v ≤ cap) ∧
    (∀ v cap rest, (Field.putLength v cap).failure = none →
      (Field.putLength v cap).bytes.length = Field.lengthSize v ∧
      Reading.length ((Field.putLength v cap).bytes ++ rest) = .ok v rest) ∧
    (∀ s v rest, Reading.length s = .ok v rest →
      ∃ bs, s = bs ++ rest ∧ bs.length ≤ 4 ∧ v ≤ maxRemainingLength ∧
        (∃ w : UInt32, Reading.length32 s = .ok w rest ∧ w.toNat = v) ∧
        (Field.putLength v 4 = .ok bs ↔ bs.length = 1 ∨ bs.getLast? ≠ some 0)) := by
  refine ⟨Field.putLength_ok_iff, ?_, ?_⟩
  · intro v cap rest ok
    obtain ⟨hv, hcap⟩ := (Field.putLength_ok_iff v cap).1 ok
    rw [Field.putLength_eq_ok hv hcap]
    exact ⟨Field.length_lengthGroups hv, Reading.length_lengthGroups hv rest⟩
  · intro s v rest read
    obtain ⟨bs, rfl, spelled, short⟩ := Reading.length_eq_ok read
    have hv := spelled.le_max short
    have hsize : Field.lengthSize v ≤ 4 := by
      simp only [Field.lengthSize]
      split_ifs <;> omega
    refine ⟨bs, rfl, short, hv, ⟨_, Reading.length32_eq read⟩, ?_⟩
    rw [Field.putLength_eq_ok hv hsize, ← spelled.eq_lengthGroups_iff short]
    constructor
    · intro e
      cases e
      rfl
    · intro e
      rw [e]

end Mqtt
