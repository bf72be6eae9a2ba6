import Mqtt.Packet.Header
import Mathlib.Tactic.Ring
import Mathlib.Data.Nat.Bitwise
/-! # Reading back written fields

The field readers invert the field writers: two-byte numbers, binary data and text behind
their length, and the remaining length in seven-bit groups. The reader accepts a remaining
length in any spelling of at most four bytes, not only the shortest one the writer produces,
so the reader is stated against `LengthSpelling` and the writer's groups are one spelling.

* `Reading.binary_framed`, `Reading.text_framed`: a written field is read back whatever follows.
* `Reading.length_spelling`: a spelling of at most four bytes is read as the length it spells.
* `Field.lengthGroups_spelling`: the writer's groups spell the length, in `lengthSize` bytes.
* `FixedHeader.read_spelling`: a header is read from its first byte and a spelling.
-/

namespace Mqtt

/-! ## Running writers and readers -/

theorem Except.bind_eq_ok {ε α β : Type} {x : Except ε α} {f : α → Except ε β} {b : β} :
    (x >>= f) = .ok b ↔ ∃ a, x = .ok a ∧ f a = .ok b := by
  cases x <;> simp [bind, Except.bind]

theorem Except.pure_eq_ok {ε α : Type} {a b : α} : (pure a : Except ε α) = .ok b ↔ a = b := by
  simp [pure, Except.pure]

/-- A conditional reader run on a state is the run of the branch taken. -/
theorem EStateM.ite_run {ε σ α : Type} (c : Prop) [Decidable c] (x y : EStateM ε σ α) (s : σ) :
    (if c then x else y) s = if c then x s else y s := by
  split <;> rfl

/-! ## Bytes and two-byte numbers -/

theorem byte_low_bits (b : UInt8) : (b &&& 0x7F).toNat = b.toNat % 128 := by
  rw [UInt8.toNat_and]
  exact Nat.and_two_pow_sub_one_eq_mod b.toNat 7

theorem byte_high_bit (b : UInt8) : (b &&& 0x80 == 0) = decide (b.toNat < 128) := by
  -- the mask keeps the eighth bit of the byte, in place
  have hmask : (b &&& 0x80).toNat = (b.toNat.testBit 7).toNat * 128 := by
    rw [UInt8.toNat_and]
    exact Nat.and_two_pow b.toNat 7
  have hbit : b.toNat.testBit 7 = decide (b.toNat / 128 % 2 = 1) :=
    Nat.testBit_eq_decide_div_mod_eq
  have hlt := b.toNat_lt
  rw [Bool.eq_iff_iff, beq_iff_eq, decide_eq_true_iff, ← UInt8.toNat_inj, hmask, hbit]
  by_cases h : b.toNat < 128
  · simp [h, Nat.div_eq_of_lt h]
  · have h1 : b.toNat / 128 = 1 := by omega
    simp [h, h1]

theorem Bytes.toUInt16_ofUInt16 (v : UInt16) : Bytes.toUInt16 (v >>> 8).toUInt8 v.toUInt8 = v := by
  unfold Bytes.toUInt16
  apply UInt16.toNat_inj.mp
  have h8 : (8 : UInt16).toNat % 16 = 8 := rfl
  simp only [UInt16.toNat_or, UInt16.toNat_shiftLeft, UInt8.toNat_toUInt16, UInt16.toNat_toUInt8,
    UInt16.toNat_shiftRight, h8, Nat.shiftLeft_eq, Nat.shiftRight_eq_div_pow]
  have hv := v.toNat_lt
  rw [Nat.mod_eq_of_lt (by omega : v.toNat / 2 ^ 8 < 256),
    Nat.mod_eq_of_lt (by omega : v.toNat / 2 ^ 8 * 2 ^ 8 < 65536), Nat.mul_comm,
    ← Nat.two_pow_add_eq_or_of_lt (Nat.mod_lt _ (by norm_num : 256 > 0))]
  omega

@[simp] theorem Bytes.length_ofUInt16 (v : UInt16) : (Bytes.ofUInt16 v).length = 2 := rfl

@[simp] theorem Reading.u16_ofUInt16 (v : UInt16) (rest : Bytes) :
    Reading.u16 (Bytes.ofUInt16 v ++ rest) = .ok v rest := by
  simp [Reading.u16, Bytes.ofUInt16, Bytes.toUInt16_ofUInt16]

@[simp] theorem Reading.byte_cons (b : UInt8) (rest : Bytes) :
    Reading.byte (b :: rest) = .ok b rest := rfl

@[simp] theorem Reading.bytes_two (x y : UInt8) (rest : Bytes) :
    Reading.bytes 2 (x :: y :: rest) = .ok [x, y] rest := rfl

@[simp] theorem Reading.bytes_append (b rest : Bytes) :
    Reading.bytes b.length (b ++ rest) = .ok b rest := by
  simp [Reading.bytes]

/-! ## Binary data and text -/

/-- Data behind its two-byte length, as the binary and text writers lay it out. -/
def Bytes.framed (b : Bytes) : Bytes := Bytes.ofUInt16 b.length.toUInt16 ++ b

@[simp] theorem Bytes.length_framed (b : Bytes) : b.framed.length = 2 + b.length := by
  simp [Bytes.framed]

/-- What the binary writer writes, and when it refuses. -/
theorem Field.binary_eq_ok {b e : Bytes} :
    Field.binary b = .ok e ↔ b.length ≤ maxFieldLength ∧ b.framed = e := by
  unfold Field.binary
  by_cases hlen : b.length > maxFieldLength
  · simp only [hlen, if_true]
    simp only [reduceCtorEq, false_iff, not_and]
    omega
  · simp only [hlen, if_false, Except.ok.injEq, Bytes.framed]
    constructor
    · rintro rfl
      exact ⟨by omega, rfl⟩
    · rintro ⟨-, rfl⟩
      rfl

theorem Field.text_eq_ok {b e : Bytes} :
    Field.text b = .ok e ↔ b.length ≤ maxFieldLength ∧ b.framed = e :=
  Field.binary_eq_ok

/-- Binary data written behind its length is read back, whatever follows it. -/
theorem Reading.binary_framed {b : Bytes} (hlen : b.length ≤ maxFieldLength) (rest : Bytes) :
    Reading.binary (b.framed ++ rest) = .ok b rest := by
  have hn : b.length.toUInt16.toNat = b.length := by
    simp only [maxFieldLength] at hlen
    simp only [Nat.toUInt16_eq, UInt16.toNat_ofNat']
    omega
  simp only [Reading.binary, Bytes.framed, bind, EStateM.bind, List.append_assoc,
    Reading.u16_ofUInt16]
  by_cases hb : b = []
  · subst hb
    rfl
  · have hne : (b.length.toUInt16 == 0) = false := by
      rw [beq_eq_false_iff_ne]
      intro h0
      apply hb
      apply List.length_eq_zero_iff.mp
      rw [← hn, h0]
      rfl
    simp only [hne, Bool.false_eq_true, if_false, hn, Reading.bytes_append]

/-- A text field is one the text reader accepts: well-formed UTF-8 without a NUL byte. -/
def Bytes.IsText (b : Bytes) : Prop := Bytes.validUtf8 b = true ∧ 0 ∉ b

instance (b : Bytes) : Decidable b.IsText := inferInstanceAs (Decidable (_ ∧ _))

/-- Text written behind its length is read back, whatever follows it. -/
theorem Reading.text_framed {b : Bytes} (hlen : b.length ≤ maxFieldLength) (ht : b.IsText)
    (rest : Bytes) : Reading.text (b.framed ++ rest) = .ok b rest := by
  obtain ⟨hvalid, hnul⟩ := ht
  have hnul' : b.contains 0 = false := by
    simpa using hnul
  simp only [Reading.text, bind, EStateM.bind, Reading.binary_framed hlen rest, hvalid, hnul',
    Bool.not_true, Bool.false_eq_true, if_false]
  rfl

/-! ## Remaining lengths -/

/-- `LengthSpelling bs v`: the bytes `bs` spell the remaining length `v`, seven bits a byte,
least significant group first, with the high bit set on every byte but the last. -/
inductive LengthSpelling : Bytes → Nat → Prop
  | last {b : UInt8} (hb : b.toNat < 128) : LengthSpelling [b] b.toNat
  | group {b : UInt8} {bs : Bytes} {v : Nat} (hb : 128 ≤ b.toNat) (rest : LengthSpelling bs v) :
      LengthSpelling (b :: bs) (b.toNat % 128 + 128 * v)

theorem LengthSpelling.length_pos {bs : Bytes} {v : Nat} (h : LengthSpelling bs v) :
    0 < bs.length := by
  cases h <;> simp

/-- The group reader reads a spelling that fits its byte budget, whatever follows it. -/
theorem Reading.lengthGroups_spelling {bs : Bytes} {v : Nat} (h : LengthSpelling bs v)
    (rest : Bytes) : ∀ (k scale acc : Nat), bs.length ≤ k →
      Reading.lengthGroups k scale acc (bs ++ rest) = .ok (acc + scale * v) rest := by
  induction h with
  | @last b hb =>
    intro k scale acc hk
    obtain ⟨k, rfl⟩ : ∃ j, k = j + 1 := ⟨k - 1, by simp at hk; omega⟩
    have hhigh : (b &&& 0x80 == 0) = true := by
      rw [byte_high_bit]
      exact decide_eq_true hb
    simp only [Reading.lengthGroups, bind, EStateM.bind, List.cons_append, List.nil_append,
      Reading.byte_cons, byte_low_bits, hhigh, if_true, pure, EStateM.pure]
    rw [Nat.mod_eq_of_lt hb, Nat.mul_comm]
  | @group b bs v hb rest' ih =>
    intro k scale acc hk
    obtain ⟨k, rfl⟩ : ∃ j, k = j + 1 := ⟨k - 1, by simp at hk; omega⟩
    have hhigh : (b &&& 0x80 == 0) = false := by
      rw [byte_high_bit]
      exact decide_eq_false (by omega)
    have hk' : bs.length ≤ k := by
      simp at hk
      omega
    have hk0 : (k == 0) = false := by
      have := rest'.length_pos
      rw [beq_eq_false_iff_ne]
      omega
    simp only [Reading.lengthGroups, bind, EStateM.bind, List.cons_append, Reading.byte_cons,
      byte_low_bits, hhigh, Bool.false_eq_true, if_false, hk0]
    rw [ih k (scale * 128) _ hk']
    congr 1
    ring

/-- A spelling of at most four bytes is read as the remaining length it spells. -/
theorem Reading.length_spelling {bs : Bytes} {v : Nat} (h : LengthSpelling bs v)
    (hlen : bs.length ≤ 4) (rest : Bytes) :
    Reading.length (bs ++ rest) = .ok v rest := by
  simpa [Reading.length] using Reading.lengthGroups_spelling h rest 4 1 0 hlen

/-- The writer's groups for a length below `128 ^ (k + 1)` spell it in at most `k + 1` bytes,
given the fuel for that many. -/
theorem Field.lengthGroups_go_spelling :
    ∀ (k fuel v : Nat), k + 1 ≤ fuel → v < 128 ^ (k + 1) →
      LengthSpelling (Field.lengthGroups.go fuel v) v ∧ (Field.lengthGroups.go fuel v).length ≤ k + 1
  | k, fuel + 1, v, hfuel, hv => by
    by_cases hsmall : v < 128
    · have hb : v.toUInt8.toNat = v := by
        simp only [Nat.toUInt8_eq, UInt8.toNat_ofNat']
        omega
      simp only [Field.lengthGroups.go, hsmall, if_true, List.length_singleton]
      refine ⟨?_, by omega⟩
      have spelled := LengthSpelling.last (b := v.toUInt8) (by omega)
      rwa [hb] at spelled
    · -- a length of 128 or more needs a further group, so `k` is not zero
      obtain ⟨k, rfl⟩ : ∃ j, k = j + 1 := ⟨k - 1, by
        cases k with
        | zero => simp at hv; omega
        | succ j => simp⟩
      have hb : (v % 128 + 128).toUInt8.toNat = v % 128 + 128 := by
        simp only [Nat.toUInt8_eq, UInt8.toNat_ofNat']
        omega
      have hrest : v / 128 < 128 ^ (k + 1) := by
        rw [Nat.div_lt_iff_lt_mul (by norm_num), ← Nat.pow_succ]
        exact hv
      obtain ⟨spelled, hlen⟩ := Field.lengthGroups_go_spelling k fuel (v / 128) (by omega) hrest
      simp only [Field.lengthGroups.go, hsmall, if_false, List.length_cons]
      refine ⟨?_, by omega⟩
      have grouped := LengthSpelling.group (b := (v % 128 + 128).toUInt8) (by omega) spelled
      rwa [hb, show (v % 128 + 128) % 128 + 128 * (v / 128) = v by omega] at grouped

/-- The writer's groups spell every length it accepts, in at most four bytes. -/
theorem Field.lengthGroups_spelling {v : Nat} (hv : v ≤ maxRemainingLength) :
    LengthSpelling (Field.lengthGroups v) v ∧ (Field.lengthGroups v).length ≤ 4 :=
  Field.lengthGroups_go_spelling 3 5 v (by omega) (by simp only [maxRemainingLength] at hv; omega)

/-- The writer's remaining length is read back, whatever follows it. -/
theorem Reading.length_lengthGroups {v : Nat} (hv : v ≤ maxRemainingLength) (rest : Bytes) :
    Reading.length (Field.lengthGroups v ++ rest) = .ok v rest :=
  Reading.length_spelling (Field.lengthGroups_spelling hv).1 (Field.lengthGroups_spelling hv).2 rest

/-! ## The fixed header -/

/-- The first byte gives back the code and flags it was made from. -/
theorem FixedHeader.ofFirstByte_firstByte (h : FixedHeader) (hc : h.code.toNat < 16)
    (hf : h.flags.toNat < 16) :
    FixedHeader.ofFirstByte h.firstByte = { h with remainingLength := 0 } := by
  have table : ∀ c : Nat, c < 16 → ∀ f : Nat, f < 16 →
      FixedHeader.ofFirstByte (FixedHeader.firstByte ⟨c.toUInt8, f.toUInt8, 0⟩) =
        ⟨c.toUInt8, f.toUInt8, 0⟩ := by
    decide
  simpa [FixedHeader.ofFirstByte, FixedHeader.firstByte] using table h.code.toNat hc h.flags.toNat hf

/-- A header is read from a first byte that names a kind and a spelling of its remaining
length, whatever follows. -/
theorem FixedHeader.read_spelling {b : UInt8} {bs : Bytes} {v : Nat}
    (hkind : (FixedHeader.ofFirstByte b).kind?.isSome) (h : LengthSpelling bs v)
    (hlen : bs.length ≤ 4) (rest : Bytes) (start : FixedHeader) :
    FixedHeader.read (b :: bs ++ rest, start) =
      .ok () (rest, { FixedHeader.ofFirstByte b with remainingLength := v }) := by
  have hnone : (FixedHeader.ofFirstByte b).kind?.isNone = false := by
    simpa using hkind
  simp only [FixedHeader.read, bind, EStateM.bind, Filling.read, Filling.update, List.cons_append,
    Reading.byte_cons, hnone, Bool.false_eq_true, if_false, Reading.length_spelling h hlen rest]

end Mqtt
