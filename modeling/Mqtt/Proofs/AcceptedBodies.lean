import Mathlib.Data.List.Basic
import Mqtt.Proofs.Bodies
/-! # Bodies the reader accepts

`Proofs/Bodies` reads back what the writer wrote. This module goes the other way: whenever a body
reader succeeds, the bytes it went through are exactly what the writer lays out for the packet it
built, so a reader accepts nothing the writer would not produce beyond the freedoms it is given
(a CONNECT flags byte read as it stands, a CONNACK with its low bit only).

* Run lemmas in bind form: `(step >>= k) s = .ok b t` unfolds to the step's own outcome and the
  rest, one lemma per reader primitive, so `simp only` walks a do block one step at a time and
  leaves an existential for every value read.
* The wire readers inverted: `Reading.u16_eq_ok`, `Reading.binary_eq_ok`, `Reading.text_eq_ok`.
* Each body reader inverted, ending with `Connect.readBody_eq_ok`, whose bytes are laid out by
  the flags byte it read (`Connect.wireBody`).
-/

namespace Mqtt

/-! ## Running readers -/

section Running

variable {ε σ α β γ : Type}

theorem EStateM.bind_eq_ok {x : EStateM ε σ α} {f : α → EStateM ε σ β} {s t : σ} {b : β} :
    (x >>= f) s = .ok b t ↔ ∃ a u, x s = .ok a u ∧ f a u = .ok b t := by
  simp only [bind, EStateM.bind]
  rcases x s with ⟨a, u⟩ | ⟨e, u⟩ <;> simp

theorem EStateM.throw_run (e : ε) (s : σ) : (throw e : EStateM ε σ α) s = .error e s := rfl

theorem EStateM.pure_run (a : α) (s : σ) : (pure a : EStateM ε σ α) s = .ok a s := rfl

theorem EStateM.pure_eq_ok {a b : α} {s t : σ} :
    (pure a : EStateM ε σ α) s = .ok b t ↔ a = b ∧ s = t := by
  simp [EStateM.pure_run]

/-- A check that throws when its condition holds lets the rest run, from the same state,
otherwise. -/
theorem EStateM.guard_eq_ok (c : Prop) [Decidable c] (e : ε) {f : PUnit → EStateM ε σ β}
    {k : EStateM ε σ β} {s t : σ} {b : β} :
    (if c then throw e >>= f else k) s = .ok b t ↔ ¬ c ∧ k s = .ok b t := by
  by_cases hc : c <;> simp [hc, bind, EStateM.bind, EStateM.throw_run]

/-- A last step taken only when its condition holds. -/
theorem EStateM.when_eq_ok (c : Prop) [Decidable c] {x : EStateM ε σ PUnit} {s t : σ} {a : PUnit} :
    (if c then x else pure PUnit.unit) s = .ok a t ↔ if c then x s = .ok a t else s = t := by
  by_cases hc : c <;> simp [hc, EStateM.pure_run]

/-- A last check that throws when its condition holds. -/
theorem EStateM.check_eq_ok (c : Prop) [Decidable c] (e : ε) {s t : σ} {a : PUnit} :
    (if c then throw e else pure PUnit.unit : EStateM ε σ PUnit) s = .ok a t ↔ ¬ c ∧ s = t := by
  by_cases hc : c <;> simp [hc, EStateM.throw_run, EStateM.pure_run]

end Running

namespace Filling

variable {P Q α β γ : Type} {st : Bytes × P} {t : Bytes × P} {b : β}

theorem read_bind_eq_ok {r : Reading α} {f : α → Filling P β} :
    (Filling.read r >>= f) st = .ok b t ↔ ∃ a s', r st.1 = .ok a s' ∧ f a (s', st.2) = .ok b t := by
  obtain ⟨s, p⟩ := st
  simp only [bind, EStateM.bind, Filling.read]
  rcases r s with ⟨a, s'⟩ | ⟨e, s'⟩ <;> simp

theorem field_bind_eq_ok {r : Reading α} {zero : α} {set : P → α → P} {f : α → Filling P β} :
    (Filling.field r zero set >>= f) st = .ok b t ↔
      ∃ a s', r st.1 = .ok a s' ∧ f a (s', set st.2 a) = .ok b t := by
  obtain ⟨s, p⟩ := st
  simp only [bind, EStateM.bind, Filling.field]
  rcases r s with ⟨a, s'⟩ | ⟨e, s'⟩ <;> simp

theorem update_eq_ok {g : P → P} {u : PUnit} :
    Filling.update g st = .ok u t ↔ t = (st.1, g st.2) := by
  simp [Filling.update, eq_comm]

theorem update_bind_eq_ok {g : P → P} {f : PUnit → Filling P β} :
    (Filling.update g >>= f) st = .ok b t ↔ f () (st.1, g st.2) = .ok b t := Iff.rfl

theorem unread_bind_eq_ok {f : Nat → Filling P β} :
    (Filling.unread >>= f) st = .ok b t ↔ f st.1.length st = .ok b t := Iff.rfl

theorem current_run : (Filling.current : Filling P P) st = .ok st.2 st := rfl

/-- A field read only under a flag. -/
theorem optional_eq_ok (c : Prop) [Decidable c] {r : Reading α} {zero : α} {set : P → α → P}
    {k : Filling P β} :
    (if c then Filling.field r zero set >>= (fun _ => k) else k) st = .ok b t ↔
      if c then ∃ a s', r st.1 = .ok a s' ∧ k (s', set st.2 a) = .ok b t else k st = .ok b t := by
  by_cases hc : c <;> simp [hc, field_bind_eq_ok]

/-- Two fields read one after the other only under a flag. -/
theorem optional₂_eq_ok (c : Prop) [Decidable c] {r : Reading α} {zero : α} {set : P → α → P}
    {r' : Reading γ} {zero' : γ} {set' : P → γ → P} {k : Filling P β} :
    (if c then Filling.field r zero set >>= (fun _ => Filling.field r' zero' set' >>= fun _ => k)
      else k) st = .ok b t ↔
      if c then ∃ a s' a' s'', r st.1 = .ok a s' ∧ r' s' = .ok a' s'' ∧
        k (s'', set' (set st.2 a) a') = .ok b t
      else k st = .ok b t := by
  by_cases hc : c <;> simp [hc, field_bind_eq_ok]

/-- A reader run on one part of the packet succeeds as that part's reader does. -/
theorem focus_eq_ok {get : P → Q} {put : Q → P} {g : Filling Q α}
    {s r : Bytes} {p p' : P} {a : α} :
    Filling.focus get put g (s, p) = .ok a (r, p') ↔ ∃ q, g (s, get p) = .ok a (r, q) ∧ put q = p' := by
  simp only [Filling.focus]
  rcases g (s, get p) with ⟨a', r', q⟩ | ⟨e, r', q⟩ <;> simp [and_assoc]

end Filling

theorem expectKind_bind_eq_ok {P β : Type} {h : FixedHeader} {k : PacketKind}
    {f : PUnit → Filling P β} {st t : Bytes × P} {b : β} :
    (expectKind h k >>= f) st = .ok b t ↔ h.code = k.code ∧ f () st = .ok b t := by
  unfold expectKind
  by_cases hc : h.code = k.code <;> simp [hc, bind, EStateM.bind, EStateM.pure_run, EStateM.throw_run]

theorem expectFlags_bind_eq_ok {P β : Type} {h : FixedHeader} {f : PUnit → Filling P β}
    {st t : Bytes × P} {b : β} :
    (expectFlags h >>= f) st = .ok b t ↔ h.checkFlags = .ok () ∧ f () st = .ok b t := by
  unfold expectFlags
  rcases hc : h.checkFlags with e | ⟨⟩ <;>
    simp [bind, EStateM.bind, EStateM.pure_run, EStateM.throw_run]

theorem Bytes.ofUInt16_toUInt16 (hi lo : UInt8) :
    Bytes.ofUInt16 (Bytes.toUInt16 hi lo) = [hi, lo] := by
  have hhi := hi.toNat_lt
  have hlo := lo.toNat_lt
  have hv : (Bytes.toUInt16 hi lo).toNat = hi.toNat * 256 + lo.toNat := by
    unfold Bytes.toUInt16
    have h8 : (8 : UInt16).toNat % 16 = 8 := rfl
    simp only [UInt16.toNat_or, UInt16.toNat_shiftLeft, UInt8.toNat_toUInt16, h8, Nat.shiftLeft_eq]
    rw [Nat.mod_eq_of_lt (by omega : hi.toNat * 2 ^ 8 < 65536), Nat.mul_comm,
      ← Nat.two_pow_add_eq_or_of_lt (by omega : lo.toNat < 2 ^ 8)]
    omega
  have h8 : (8 : UInt16).toNat % 16 = 8 := rfl
  simp only [Bytes.ofUInt16, List.cons.injEq, and_true]
  constructor
  · apply UInt8.toNat_inj.mp
    simp only [UInt16.toNat_toUInt8, UInt16.toNat_shiftRight, hv, h8, Nat.shiftRight_eq_div_pow]
    omega
  · apply UInt8.toNat_inj.mp
    simp only [UInt16.toNat_toUInt8, hv]
    omega

/-! ## The wire readers inverted -/

namespace Reading

variable {s r : Bytes}

theorem byte_eq_ok {b : UInt8} : Reading.byte s = .ok b r ↔ s = b :: r := by
  cases s <;> simp [Reading.byte, eq_comm]

theorem bytes_eq_ok {k : Nat} {b : Bytes} :
    Reading.bytes k s = .ok b r ↔ s = b ++ r ∧ b.length = k := by
  unfold Reading.bytes
  split
  · constructor
    · rintro ⟨⟩
      exact ⟨(List.take_append_drop k s).symm, List.length_take_of_le ‹_›⟩
    · rintro ⟨rfl, rfl⟩
      simp
  · simp only [reduceCtorEq, false_iff, not_and]
    rintro rfl rfl
    simp at *

theorem u16_eq_ok {v : UInt16} : Reading.u16 s = .ok v r ↔ s = Bytes.ofUInt16 v ++ r := by
  constructor
  · intro h
    match s, h with
    | hi :: lo :: t, h =>
      simp only [Reading.u16, EStateM.Result.ok.injEq] at h
      obtain ⟨rfl, rfl⟩ := h
      simp [Bytes.ofUInt16_toUInt16]
    | [], h => simp [Reading.u16] at h
    | [_], h => simp [Reading.u16] at h
  · rintro rfl
    exact u16_ofUInt16 v r

theorem binary_eq_ok {b : Bytes} :
    Reading.binary s = .ok b r ↔ s = b.framed ++ r ∧ b.length ≤ maxFieldLength := by
  constructor
  · intro h
    simp only [Reading.binary, EStateM.bind_eq_ok, u16_eq_ok, EStateM.ite_run] at h
    obtain ⟨n, t, rfl, h⟩ := h
    split at h
    · simp only [EStateM.pure_run, EStateM.Result.ok.injEq] at h
      obtain ⟨rfl, rfl⟩ := h
      simp_all [Bytes.framed, maxFieldLength]
    · obtain ⟨rfl, hlen⟩ := bytes_eq_ok.mp h
      have hn := n.toNat_lt
      refine ⟨?_, by simp only [maxFieldLength]; omega⟩
      simp [Bytes.framed, hlen]
  · rintro ⟨rfl, hlen⟩
    exact binary_framed hlen r

theorem text_eq_ok {b : Bytes} :
    Reading.text s = .ok b r ↔ s = b.framed ++ r ∧ b.length ≤ maxFieldLength ∧ b.IsText := by
  constructor
  · intro h
    simp only [Reading.text, EStateM.bind_eq_ok, binary_eq_ok, EStateM.ite_run] at h
    obtain ⟨b, t, ⟨rfl, hlen⟩, h⟩ := h
    -- a failed check throws: only the last branch returns
    split_ifs at h with hutf hnul hnul
    · cases h
    · cases h
    · cases h
    · simp only [pure, EStateM.pure, EStateM.Result.ok.injEq] at h
      obtain ⟨rfl, rfl⟩ := h
      exact ⟨rfl, hlen, by simpa using hutf, by simpa using hnul⟩
  · rintro ⟨rfl, hlen, ht⟩
    exact text_framed hlen ht r

end Reading

/-! ## The body readers inverted -/

section Bodies

variable {s r : Bytes}

theorem readAck_eq_ok {k : PacketKind} {h : FixedHeader} {i0 i : UInt16} {u : PUnit}
    (hr : readAck k h (s, i0) = .ok u (r, i)) :
    h.code = k.code ∧ h.flags = k.reservedFlags ∧ h.remainingLength = 2 ∧ s = Field.u16 i ++ r := by
  simp only [readAck, Filling.update_bind_eq_ok, expectKind_bind_eq_ok, EStateM.guard_eq_ok, Filling.field_bind_eq_ok,
    EStateM.pure_eq_ok, Reading.u16_eq_ok, bne_iff_ne, ne_eq, not_not, Prod.mk.injEq] at hr
  obtain ⟨hcode, hflags, hrl, i', s', rfl, -, rfl, rfl⟩ := hr
  exact ⟨hcode, hflags, hrl, rfl⟩

theorem readEmpty_eq_ok {k : PacketKind} {h : FixedHeader} {P : Type} {p q : P} {u : PUnit}
    (hr : readEmpty k h (s, p) = .ok u (r, q)) :
    h.code = k.code ∧ h.flags = 0 ∧ h.remainingLength = 0 ∧ r = s ∧ q = p := by
  simp only [readEmpty, expectKind_bind_eq_ok, EStateM.guard_eq_ok, EStateM.check_eq_ok,
    bne_iff_ne, ne_eq, not_not, Prod.mk.injEq] at hr
  obtain ⟨hcode, hflags, hrl, rfl, rfl⟩ := hr
  exact ⟨hcode, hflags, hrl, rfl, rfl⟩

/-- A first CONNACK byte with only its low bit free is the session-present flag. -/
theorem connackFlags_of_high_clear {x : UInt8} (hx : x &&& 0xFE = 0) :
    x = if x &&& 0x01 = 0 then 0 else 1 := by
  have table : ∀ n : Nat, n < 256 → n.toUInt8 &&& 0xFE = 0 →
      n.toUInt8 = if n.toUInt8 &&& 0x01 = 0 then 0 else 1 := by
    decide +kernel
  simpa using table x.toNat x.toNat_lt (by simpa using hx)

theorem Connack.readBody_eq_ok {h : FixedHeader} {c0 c : Connack} {u : PUnit}
    (hr : Connack.readBody h (s, c0) = .ok u (r, c)) :
    h.code = 2 ∧ h.checkFlags = .ok () ∧ h.remainingLength = 2 ∧
      s = [if c.sessionPresent then 1 else 0, c.returnCode] ++ r := by
  simp only [Connack.readBody, expectKind_bind_eq_ok, expectFlags_bind_eq_ok, EStateM.guard_eq_ok,
    Filling.read_bind_eq_ok, Filling.update_eq_ok, Reading.bytes_eq_ok, bne_iff_ne, ne_eq, not_not,
    Prod.mk.injEq] at hr
  obtain ⟨hcode, hflags, hrl, b, s', ⟨rfl, hlen⟩, hhigh, rfl, rfl⟩ := hr
  obtain ⟨x, y, rfl⟩ := List.length_eq_two.mp hlen
  refine ⟨hcode, hflags, hrl, ?_⟩
  simp only [List.headD_cons] at hhigh
  simpa using connackFlags_of_high_clear hhigh

theorem takeWhile_eq_self_of_length {p : UInt8 → Bool} {l : List UInt8}
    (h : ¬ (l.takeWhile p).length < l.length) : l.takeWhile p = l := by
  have whole : l.takeWhile p ++ l.dropWhile p = l := List.takeWhile_append_dropWhile
  have rest : l.dropWhile p = [] := by
    apply List.eq_nil_of_length_eq_zero
    have := congrArg List.length whole
    simp only [List.length_append] at this
    omega
  simpa [rest] using whole

theorem Suback.readBody_eq_ok {h : FixedHeader} {p0 p : Suback} {u : PUnit}
    (hr : Suback.readBody h (s, p0) = .ok u (r, p)) :
    h.code = 9 ∧ h.checkFlags = .ok () ∧ s = Field.u16 p.packetId ++ p.returnCodes ++ r := by
  simp only [Suback.readBody, expectKind_bind_eq_ok, expectFlags_bind_eq_ok, EStateM.guard_eq_ok,
    EStateM.check_eq_ok, Filling.read_bind_eq_ok, Filling.update_bind_eq_ok, Reading.bytes_eq_ok,
    Reading.u16_eq_ok, Prod.mk.injEq] at hr
  obtain ⟨hcode, hflags, -, i, s1, rfl, codes, s2, ⟨rfl, -⟩, hgood, rfl, rfl⟩ := hr
  refine ⟨hcode, hflags, ?_⟩
  simp [padTo, takeWhile_eq_self_of_length hgood, Field.u16]

theorem Publish.readPayload_eq_ok {n : Nat} {st t : Bytes × Publish} {u : PUnit} :
    readPayload n st = .ok u t ↔ n ≤ st.1.length ∧ t = (st.1.drop n, { st.2 with payload := st.1.take n }) := by
  obtain ⟨s, p⟩ := st
  unfold readPayload
  by_cases hn : n ≤ s.length <;> simp [hn, eq_comm]

theorem Publish.readBody_eq_ok {h : FixedHeader} {p0 p : Publish} {u : PUnit}
    (hr : Publish.readBody h (s, p0) = .ok u (r, p)) :
    h.code = 3 ∧ h.checkFlags = .ok () ∧ p.dup = h.dup ∧ p.qos = h.qos ∧ p.retain = h.retain ∧
      p.topic.IsText ∧ ∃ b, p.body = .ok b ∧ s = b ++ r := by
  simp only [Publish.readBody, expectKind_bind_eq_ok, expectFlags_bind_eq_ok, EStateM.guard_eq_ok,
    EStateM.when_eq_ok, Filling.field_bind_eq_ok, Filling.optional_eq_ok, Filling.update_bind_eq_ok,
    Filling.unread_bind_eq_ok, Reading.text_eq_ok, Reading.u16_eq_ok, Publish.readPayload_eq_ok,
    Prod.mk.injEq] at hr
  obtain ⟨hcode, hflags, topic, s1, ⟨rfl, hlen, htext⟩, hr⟩ := hr
  -- what follows the topic: the identifier above QoS 0, then the payload the length leaves
  suffices after : ∃ i payload, p = ⟨topic, payload, h.qos, h.retain, h.dup, i⟩ ∧
      s1 = (if h.qos > 0 then Field.u16 i else []) ++ payload ++ r by
    obtain ⟨i, payload, rfl, rfl⟩ := after
    exact ⟨hcode, hflags, rfl, rfl, rfl, htext, _, Publish.body_eq_ok.mpr ⟨hlen, rfl⟩, by simp⟩
  by_cases hq : h.qos > 0
  · rw [if_pos hq] at hr
    obtain ⟨i, s2, rfl, -, hr⟩ := hr
    split_ifs at hr
    · obtain ⟨-, rfl, rfl⟩ := hr
      exact ⟨i, _, rfl, by simp [hq, Field.u16]⟩
    · obtain ⟨rfl, rfl⟩ := hr
      exact ⟨i, [], rfl, by simp [hq, Field.u16]⟩
  · rw [if_neg hq] at hr
    obtain ⟨-, hr⟩ := hr
    split_ifs at hr
    · obtain ⟨-, rfl, rfl⟩ := hr
      exact ⟨p0.packetId, _, rfl, by simp [hq]⟩
    · obtain ⟨rfl, rfl⟩ := hr
      exact ⟨p0.packetId, [], rfl, by simp [hq]⟩

theorem Subscribe.readEntries_eq_ok {rl start : Nat} :
    ∀ {fuel : Nat} {s : Bytes} {q0 q : Subscribe} {u : PUnit},
      Subscribe.readEntries rl start fuel (s, q0) = .ok u (r, q) →
      ∃ es, q = { q0 with subscriptions := q0.subscriptions ++ es } ∧
        s = (es.map Subscription.onWire).flatten ++ r ∧ ∀ e ∈ es, e.filter.length ≤ maxFieldLength
  | 0, s, q0, q, u, hr => by
    simp only [Subscribe.readEntries, EStateM.pure_eq_ok, Prod.mk.injEq] at hr
    obtain ⟨-, rfl, rfl⟩ := hr
    exact ⟨[], by simp, by simp, by simp⟩
  | fuel + 1, s, q0, q, u, hr => by
    simp only [Subscribe.readEntries, Filling.unread_bind_eq_ok, EStateM.when_eq_ok,
      Filling.read_bind_eq_ok, EStateM.guard_eq_ok, Filling.update_bind_eq_ok, Reading.text_eq_ok,
      Reading.byte_eq_ok, Prod.mk.injEq] at hr
    -- another entry is read while the body has bytes left
    split_ifs at hr
    · obtain ⟨f, s1, ⟨rfl, hlen, -⟩, qos, s2, rfl, -, hr⟩ := hr
      obtain ⟨es, rfl, rfl, hes⟩ := readEntries_eq_ok hr
      refine ⟨⟨f, qos⟩ :: es, by simp, by simp [Subscription.onWire], ?_⟩
      simpa [hlen] using hes
    · obtain ⟨rfl, rfl⟩ := hr
      exact ⟨[], by simp, by simp, by simp⟩

theorem Subscribe.readBody_eq_ok {h : FixedHeader} {p0 p : Subscribe} {u : PUnit}
    (hr : Subscribe.readBody h (s, p0) = .ok u (r, p)) :
    h.code = 8 ∧ h.checkFlags = .ok () ∧ ∃ b, (Packet.subscribe p).body = .ok b ∧ s = b ++ r := by
  simp only [Subscribe.readBody, expectKind_bind_eq_ok, expectFlags_bind_eq_ok,
    Filling.unread_bind_eq_ok, Filling.read_bind_eq_ok, Filling.update_bind_eq_ok,
    Reading.u16_eq_ok] at hr
  -- the entries end where the body ends; then the list must not be empty
  simp only [EStateM.bind_eq_ok, Filling.current_run, EStateM.check_eq_ok, EStateM.Result.ok.injEq] at hr
  obtain ⟨hcode, hflags, i, s1, rfl, _, st, hentries, c, st', ⟨_, rfl⟩, _, rfl⟩ := hr
  obtain ⟨es, rfl, rfl, hes⟩ := Subscribe.readEntries_eq_ok hentries
  refine ⟨hcode, hflags, Field.u16 i ++ (es.map Subscription.onWire).flatten, ?_, by simp [Field.u16]⟩
  simp only [Packet.body, Except.bind_eq_ok, Subscribe.entries_eq_ok, Except.pure_eq_ok]
  exact ⟨_, ⟨by simpa using hes, rfl⟩, by simp⟩

theorem Unsubscribe.readEntries_eq_ok {rl start : Nat} :
    ∀ {fuel : Nat} {s : Bytes} {q0 q : Unsubscribe} {u : PUnit},
      Unsubscribe.readEntries rl start fuel (s, q0) = .ok u (r, q) →
      ∃ fs, q = { q0 with topicFilters := q0.topicFilters ++ fs } ∧
        s = (fs.map Bytes.framed).flatten ++ r ∧ ∀ f ∈ fs, f.length ≤ maxFieldLength
  | 0, s, q0, q, u, hr => by
    simp only [Unsubscribe.readEntries, EStateM.pure_eq_ok, Prod.mk.injEq] at hr
    obtain ⟨-, rfl, rfl⟩ := hr
    exact ⟨[], by simp, by simp, by simp⟩
  | fuel + 1, s, q0, q, u, hr => by
    simp only [Unsubscribe.readEntries, Filling.unread_bind_eq_ok, EStateM.when_eq_ok,
      Filling.read_bind_eq_ok, Filling.update_bind_eq_ok, Reading.text_eq_ok, Prod.mk.injEq] at hr
    -- another filter is read while the body has bytes left
    split_ifs at hr
    · obtain ⟨f, s1, ⟨rfl, hlen, -⟩, hr⟩ := hr
      obtain ⟨fs, rfl, rfl, hfs⟩ := readEntries_eq_ok hr
      refine ⟨f :: fs, by simp, by simp, ?_⟩
      simpa [hlen] using hfs
    · obtain ⟨rfl, rfl⟩ := hr
      exact ⟨[], by simp, by simp, by simp⟩

theorem Unsubscribe.readBody_eq_ok {h : FixedHeader} {p0 p : Unsubscribe} {u : PUnit}
    (hr : Unsubscribe.readBody h (s, p0) = .ok u (r, p)) :
    h.code = 10 ∧ h.checkFlags = .ok () ∧ ∃ b, (Packet.unsubscribe p).body = .ok b ∧ s = b ++ r := by
  simp only [Unsubscribe.readBody, expectKind_bind_eq_ok, expectFlags_bind_eq_ok,
    Filling.unread_bind_eq_ok, Filling.read_bind_eq_ok, Filling.update_bind_eq_ok,
    Reading.u16_eq_ok] at hr
  -- the filters end where the body ends; then the list must not be empty
  simp only [EStateM.bind_eq_ok, Filling.current_run, EStateM.check_eq_ok, EStateM.Result.ok.injEq] at hr
  obtain ⟨hcode, hflags, i, s1, rfl, _, st, hentries, c, st', ⟨_, rfl⟩, _, rfl⟩ := hr
  obtain ⟨fs, rfl, rfl, hfs⟩ := Unsubscribe.readEntries_eq_ok hentries
  refine ⟨hcode, hflags, Field.u16 i ++ (fs.map Bytes.framed).flatten, ?_, by simp [Field.u16]⟩
  have hwritten : ∀ {es : List Bytes}, fs.mapM Field.text = .ok es ↔
      (∀ f ∈ fs, f.length ≤ maxFieldLength) ∧ es = fs.map Bytes.framed :=
    Except.mapM_eq_ok fun f e => by rw [Field.text_eq_ok, eq_comm]
  simp only [Packet.body, Except.bind_eq_ok, Except.pure_eq_ok]
  exact ⟨_, hwritten.mpr ⟨by simpa using hfs, rfl⟩, by simp⟩

namespace Connect

/-- The session and will flags a flags byte sets. -/
def flagged (p : Connect) (f : UInt8) : Connect :=
  { p with cleanSession := f &&& 0x02 != 0, willFlag := f &&& 0x04 != 0,
           willQos := (f &&& 0x18) >>> 3, willRetain := f &&& 0x20 != 0 }

/-- The flags reader changes only the session and will flags. -/
theorem applyFlags_eq_ok {f : UInt8} {st t : Bytes × Connect} {u : PUnit}
    (hr : applyFlags f st = .ok u t) : t = (st.1, flagged st.2 f) := by
  simp only [applyFlags, EStateM.guard_eq_ok, Filling.update_bind_eq_ok, EStateM.check_eq_ok] at hr
  exact hr.2.2.2.2.symm

theorem applyFlags_bind_eq_ok {β : Type} {g : UInt8} {k : PUnit → Filling Connect β}
    {st t : Bytes × Connect} {b : β} :
    (applyFlags g >>= k) st = .ok b t ↔
      applyFlags g st = .ok () (st.1, flagged st.2 g) ∧ k () (st.1, flagged st.2 g) = .ok b t := by
  rw [EStateM.bind_eq_ok]
  constructor
  · rintro ⟨u, st', happly, hk⟩
    obtain rfl := applyFlags_eq_ok happly
    exact ⟨happly, hk⟩
  · rintro ⟨happly, hk⟩
    exact ⟨(), _, happly, hk⟩

/-- The bytes of a CONNECT body as the flags byte `f` lays them out. -/
def wireBody (q : Connect) (f : UInt8) : Bytes :=
  q.protocolName.framed ++ [q.protocolLevel, f] ++ Field.u16 q.keepAlive ++ q.clientId.framed ++
    (if (f &&& 0x04 != 0) = true then q.willTopic.framed ++ q.willMessage.framed else []) ++
    (if (f &&& 0x80 != 0) = true then q.username.framed else []) ++
    (if (f &&& 0x40 != 0) = true then q.password.framed else [])

/-- Every field of a CONNECT packet fits behind a two-byte length. -/
def Fits (q : Connect) : Prop :=
  ∀ x ∈ [q.protocolName, q.clientId, q.willTopic, q.willMessage, q.username, q.password],
    x.length ≤ maxFieldLength

theorem readBody_eq_ok {h : FixedHeader} {q : Connect} {u : PUnit}
    (hr : readBody h (s, {}) = .ok u (r, q)) :
    h.code = 1 ∧ h.checkFlags = .ok () ∧ q.Fits ∧ ∃ f, s = q.wireBody f ++ r := by
  simp only [readBody, expectKind_bind_eq_ok, expectFlags_bind_eq_ok, Filling.unread_bind_eq_ok,
    Filling.read_bind_eq_ok, Filling.update_bind_eq_ok, applyFlags_bind_eq_ok,
    Filling.field_bind_eq_ok, Filling.optional_eq_ok, Filling.optional₂_eq_ok, EStateM.check_eq_ok,
    Reading.text_eq_ok, Reading.binary_eq_ok, Reading.bytes_eq_ok, Reading.u16_eq_ok,
    Prod.mk.injEq] at hr
  obtain ⟨hcode, hflags, name, s1, ⟨rfl, hname, -⟩, fixed, s2, ⟨rfl, hfixed⟩, -, ka, s3, rfl, cid, s4,
    ⟨rfl, hcid, -⟩, hr⟩ := hr
  obtain ⟨level, f, rfl⟩ := List.length_eq_two.mp hfixed
  simp only [List.drop_succ_cons, List.drop_zero, List.headD_cons] at hr
  refine ⟨hcode, hflags, ?_⟩
  -- which optional fields are read is decided by three bits of the flags byte
  by_cases hw : (f &&& 0x04 != 0) = true <;> by_cases hu : (f &&& 0x80 != 0) = true <;>
    by_cases hp : (f &&& 0x40 != 0) = true <;>
    simp only [hw, hu, hp, if_true, if_false, Bool.false_eq_true] at hr
  all_goals
    casesm* (∃ _, _), (_ ∧ _)
    subst_vars
    refine ⟨?_, f, ?_⟩
    · simp_all [Fits, flagged]
    · simp [wireBody, flagged, hw, hu, hp, Field.u16]

/-- A CONNECT packet that passes its checks, has its own protocol name and level and fields that
fit is written as its fields laid out by its own flags byte. -/
theorem body_wireBody {q : Connect} (hv : q.validate = .ok ()) (hfits : q.Fits)
    (hname : q.protocolName ≠ []) (hlevel : q.protocolLevel ≠ 0) :
    q.body = .ok (q.wireBody q.flagsByte) := by
  obtain ⟨hq, -, -⟩ := validate_flags hv
  obtain ⟨-, -, h4, -, -, h40, h80⟩ := flagsByte_bits q hq
  simp only [Fits, List.mem_cons, List.not_mem_nil, or_false, forall_eq_or_imp, forall_eq] at hfits
  obtain ⟨hn, hc, ht, hm, hu, hp⟩ := hfits
  have hnamed : q.protocolName.isEmpty = false := by simpa using hname
  have hleveled : (q.protocolLevel == 0) = false := by simpa using hlevel
  have wn : Field.text q.protocolName = .ok q.protocolName.framed := Field.text_eq_ok.mpr ⟨hn, rfl⟩
  have wc : Field.text q.clientId = .ok q.clientId.framed := Field.text_eq_ok.mpr ⟨hc, rfl⟩
  have wt : Field.text q.willTopic = .ok q.willTopic.framed := Field.text_eq_ok.mpr ⟨ht, rfl⟩
  have wm : Field.binary q.willMessage = .ok q.willMessage.framed := Field.binary_eq_ok.mpr ⟨hm, rfl⟩
  have wu : Field.text q.username = .ok q.username.framed := Field.text_eq_ok.mpr ⟨hu, rfl⟩
  have wp : Field.binary q.password = .ok q.password.framed := Field.binary_eq_ok.mpr ⟨hp, rfl⟩
  -- the flags byte announces exactly the optional fields the writer writes
  cases hw : q.willFlag <;> cases hue : q.username.isEmpty <;> cases hpe : q.password.isEmpty <;>
    simp [body, wireBody, h4, h40, h80, hw, hue, hpe, hnamed, hleveled, wn, wc, wt, wm, wu, wp,
      bind, Except.bind, pure, Except.pure]

end Connect

end Bodies

end Mqtt
