import Mqtt.Proofs.StreamFrames
/-! # The shapes of a byte stream

Whatever bytes a connection holds, the reader meets one of four shapes (`Bytes.shape`): nothing;
a whole frame followed by anything; the start of a frame cut before its end; or a fixed header
that cannot be read, because its first byte names no kind or its remaining length has not ended
after four bytes (`MalformedHeader`).

One read through a buffer answers a whole frame and stops at its end (`Frame.answer_packetInto`);
it takes all of a cut frame and reports the end of the data, after at least one byte
(`Frame.packetInto_cut`); and it reports a malformed header as a failed read
(`MalformedHeader.packetInto`), not as a decode fault.
-/

namespace Mqtt

/-! ## Remaining lengths cut short or too long -/

/-- A spelling cut short within the reader's budget of bytes runs out of bytes. -/
theorem Reading.lengthGroups_cut {bs : Bytes} {v : Nat} (h : LengthSpelling bs v) :
    ∀ {pre more : Bytes}, pre ++ more = bs → more ≠ [] → ∀ (k scale acc : Nat), pre.length < k →
      Reading.lengthGroups k scale acc pre = .error (.of .endOfStream) [] := by
  induction h with
  | @last b hb =>
    intro pre more cut missing k scale acc budget
    obtain ⟨k, rfl⟩ : ∃ j, k = j + 1 := ⟨k - 1, by omega⟩
    -- a spelling of one byte cut short leaves nothing
    cases pre with
    | nil => rfl
    | cons c pre' =>
      simp only [List.cons_append, List.cons.injEq, List.append_eq_nil_iff] at cut
      exact absurd cut.2.2 missing
  | @group b bs v hb rest ih =>
    intro pre more cut missing k scale acc budget
    obtain ⟨k, rfl⟩ : ∃ j, k = j + 1 := ⟨k - 1, by omega⟩
    cases pre with
    | nil => rfl
    | cons c pre' =>
      simp only [List.cons_append, List.cons.injEq] at cut
      obtain ⟨rfl, cut'⟩ := cut
      simp only [List.length_cons] at budget
      have hhigh : (c &&& 0x80 == 0) = false := by
        rw [byte_high_bit]
        exact decide_eq_false (by omega)
      have hk0 : (k == 0) = false := by
        rw [beq_eq_false_iff_ne]
        omega
      simp only [Reading.lengthGroups, bind, EStateM.bind, Reading.byte_cons, hhigh,
        Bool.false_eq_true, if_false, hk0]
      exact ih cut' missing k _ _ (by omega)

/-- A remaining length whose whole budget of bytes carries the continuation bit is malformed,
and the reader stops right after those bytes. -/
theorem Reading.lengthGroups_continued (rest : Bytes) :
    ∀ (cs : Bytes) (k scale acc : Nat), cs.length = k + 1 → (∀ c ∈ cs, 128 ≤ c.toNat) →
      Reading.lengthGroups (k + 1) scale acc (cs ++ rest) = .error (.of .lengthMalformed) rest
  | [], _, _, _, len, _ => by simp at len
  | c :: cs, k, scale, acc, len, high => by
    have hhigh : (c &&& 0x80 == 0) = false := by
      rw [byte_high_bit]
      exact decide_eq_false (by have := high c (by simp); omega)
    cases k with
    | zero =>
      have empty : cs = [] := by simpa using len
      subst empty
      simp only [Reading.lengthGroups, bind, EStateM.bind, List.cons_append, List.nil_append,
        Reading.byte_cons, hhigh, Bool.false_eq_true, if_false, beq_self_eq_true, if_true]
      rfl
    | succ k =>
      have hk0 : (k + 1 == 0) = false := rfl
      simp only [Reading.lengthGroups, bind, EStateM.bind, List.cons_append, Reading.byte_cons,
        hhigh, Bool.false_eq_true, if_false, hk0]
      exact Reading.lengthGroups_continued rest cs k _ _ (by simpa using len)
        fun c' mem => high c' (by simp [mem])

/-- The front of a remaining length within a budget of `k + 1` bytes: a whole spelling, a start
whose bytes all continue, or `k + 1` bytes that all continue. -/
theorem LengthSpelling.front : ∀ (k : Nat) (t : Bytes),
    (∃ bs v rest, LengthSpelling bs v ∧ bs.length ≤ k + 1 ∧ t = bs ++ rest) ∨
    (t.length ≤ k ∧ ∀ c ∈ t, 128 ≤ c.toNat) ∨
    (∃ cs rest, cs.length = k + 1 ∧ (∀ c ∈ cs, 128 ≤ c.toNat) ∧ t = cs ++ rest)
  | _, [] => .inr (.inl ⟨Nat.zero_le _, fun _ mem => nomatch mem⟩)
  | k, c :: t => by
    by_cases low : c.toNat < 128
    · exact .inl ⟨[c], c.toNat, t, .last low, by simp, rfl⟩
    · cases k with
      | zero => exact .inr (.inr ⟨[c], t, rfl, by simpa using low, rfl⟩)
      | succ k =>
        rcases LengthSpelling.front k t with ⟨bs, v, rest, spelled, short, rfl⟩ | ⟨short, high⟩ |
            ⟨cs, rest, len, high, rfl⟩
        · exact .inl ⟨c :: bs, _, rest, .group (by omega) spelled, by simpa using short, rfl⟩
        · refine .inr (.inl ⟨by simpa using short, ?_⟩)
          simp only [List.mem_cons, forall_eq_or_imp]
          exact ⟨by omega, high⟩
        · refine .inr (.inr ⟨c :: cs, rest, by simpa using len, ?_, rfl⟩)
          simp only [List.mem_cons, forall_eq_or_imp]
          exact ⟨by omega, high⟩

/-- Bytes that all continue, ended by a zero byte, spell a remaining length. -/
theorem LengthSpelling.of_continued : ∀ (t : Bytes), (∀ c ∈ t, 128 ≤ c.toNat) →
    ∃ v, LengthSpelling (t ++ [0]) v
  | [], _ => ⟨_, .last (b := 0) (by decide)⟩
  | c :: t, high => by
    obtain ⟨v, spelled⟩ := LengthSpelling.of_continued t fun c' mem => high c' (by simp [mem])
    exact ⟨_, .group (high c (by simp)) spelled⟩

/-! ## Fixed headers that stop early -/

section Headers

variable {b : UInt8}

/-- A first byte that names no kind stops the header right after it. -/
theorem FixedHeader.readFrom_noKind (noKind : (FixedHeader.ofFirstByte b).kind? = none)
    (rest : Bytes) :
    FixedHeader.readFrom (b :: rest) =
      (FixedHeader.ofFirstByte b, rest, some (.of .invalidPacketType)) := by
  have hnone : (FixedHeader.ofFirstByte b).kind?.isNone = true := by simp [noKind]
  simp only [FixedHeader.readFrom, FixedHeader.read, bind, EStateM.bind, Filling.read,
    Filling.update, Reading.byte_cons, hnone, if_true]
  rfl

/-- Four bytes of remaining length that all continue stop the header right after them. -/
theorem FixedHeader.readFrom_continued (names : (FixedHeader.ofFirstByte b).kind?.isSome)
    {cs : Bytes} (four : cs.length = 4) (high : ∀ c ∈ cs, 128 ≤ c.toNat) (rest : Bytes) :
    FixedHeader.readFrom (b :: cs ++ rest) =
      (FixedHeader.ofFirstByte b, rest, some (.of .lengthMalformed)) := by
  have hnone : (FixedHeader.ofFirstByte b).kind?.isNone = false := by simpa using names
  have malformed := Reading.lengthGroups_continued rest cs 3 1 0 four high
  simp only [FixedHeader.readFrom, FixedHeader.read, bind, EStateM.bind, Filling.read,
    Filling.update, List.cons_append, Reading.byte_cons, hnone, Bool.false_eq_true, if_false,
    Reading.length, malformed]

/-- A remaining length cut short takes the header's bytes to the end of the stream. -/
theorem FixedHeader.readFrom_cutLength (names : (FixedHeader.ofFirstByte b).kind?.isSome)
    {bs pre more : Bytes} {v : Nat} (spelled : LengthSpelling bs v) (short : bs.length ≤ 4)
    (cut : pre ++ more = bs) (missing : more ≠ []) :
    FixedHeader.readFrom (b :: pre) = (FixedHeader.ofFirstByte b, [], some (.of .endOfStream)) := by
  have budget : pre.length < 4 := by
    have lengths := congrArg List.length cut
    have gap := List.length_pos_iff.mpr missing
    simp only [List.length_append] at lengths
    omega
  have hnone : (FixedHeader.ofFirstByte b).kind?.isNone = false := by simpa using names
  have ran := Reading.lengthGroups_cut spelled cut missing 4 1 0 budget
  simp only [FixedHeader.readFrom, FixedHeader.read, bind, EStateM.bind, Filling.read,
    Filling.update, Reading.byte_cons, hnone, Bool.false_eq_true, if_false, Reading.length, ran]

end Headers

/-- The header of a frame is read from its first bytes whatever follows them, even a body cut
short. -/
theorem Frame.readFrom_header (f : Frame) (after : Bytes) :
    FixedHeader.readFrom (f.first :: f.lengthBytes ++ after) = (f.header, after, none) := by
  have hread := FixedHeader.read_spelling f.names_kind f.spells_length f.short_length after default
  simp only [FixedHeader.readFrom, hread, Frame.header]

/-! ## The four shapes -/

/-- `f.Cut s`: the bytes `s` start the frame `f` and stop before its end, with at least one byte
of it there. -/
def Frame.Cut (f : Frame) (s : Bytes) : Prop :=
  s ≠ [] ∧ ∃ more, more ≠ [] ∧ s ++ more = f.bytes

/-- A stream that starts with a fixed header that cannot be read: a first byte that names no
kind, or a first byte followed by four bytes of remaining length that all continue. -/
inductive MalformedHeader : Bytes → Prop
  | kind {b : UInt8} {rest : Bytes} (noKind : (FixedHeader.ofFirstByte b).kind? = none) :
      MalformedHeader (b :: rest)
  | length {b : UInt8} {cs rest : Bytes} (names : (FixedHeader.ofFirstByte b).kind?.isSome)
      (four : cs.length = 4) (high : ∀ c ∈ cs, 128 ≤ c.toNat) : MalformedHeader (b :: cs ++ rest)

/-- Every byte string is empty, a whole frame with anything after it, a frame cut short, or a
malformed fixed header. -/
theorem Bytes.shape (s : Bytes) :
    s = [] ∨ (∃ (f : Frame) (rest : Bytes), s = f.bytes ++ rest) ∨ (∃ f : Frame, f.Cut s) ∨
      MalformedHeader s := by
  cases s with
  | nil => exact .inl rfl
  | cons b t =>
    cases kind : (FixedHeader.ofFirstByte b).kind? with
    | none => exact .inr (.inr (.inr (.kind kind)))
    | some k =>
      have names : (FixedHeader.ofFirstByte b).kind?.isSome := by simp [kind]
      rcases LengthSpelling.front 3 t with ⟨bs, v, after, spelled, short, rfl⟩ | ⟨short, high⟩ |
          ⟨cs, rest, four, high, rfl⟩
      · by_cases enough : v ≤ after.length
        · -- the whole body is there
          have spelled' : LengthSpelling bs (after.take v).length := by
            rwa [List.length_take, Nat.min_eq_left enough]
          refine .inr (.inl ⟨⟨b, bs, after.take v, names, spelled', short⟩, after.drop v, ?_⟩)
          simp [Frame.bytes]
        · -- the body is cut: any bytes complete it
          have spelled' : LengthSpelling bs (after ++ List.replicate (v - after.length) 0).length := by
            rwa [List.length_append, List.length_replicate, Nat.add_sub_cancel' (by omega)]
          refine .inr (.inr (.inl ⟨⟨b, bs, after ++ List.replicate (v - after.length) 0, names,
            spelled', short⟩, List.cons_ne_nil _ _, List.replicate (v - after.length) 0, ?_, ?_⟩))
          · simp only [ne_eq, List.replicate_eq_nil_iff]
            omega
          · simp [Frame.bytes]
      · -- the remaining length is cut: a zero byte ends it, and a body of its length follows
        obtain ⟨v, spelled⟩ := LengthSpelling.of_continued t high
        have spelled' : LengthSpelling (t ++ [0]) (List.replicate v (0 : UInt8)).length := by
          rwa [List.length_replicate]
        refine .inr (.inr (.inl ⟨⟨b, t ++ [0], List.replicate v 0, names, spelled', ?_⟩,
          List.cons_ne_nil _ _, 0 :: List.replicate v 0, List.cons_ne_nil _ _, ?_⟩))
        · simp only [List.length_append, List.length_singleton]
          omega
        · simp [Frame.bytes]
      · exact .inr (.inr (.inr (.length names four high)))

/-! ## One read of each shape -/

/-- A read that ran out of data: it took every byte there was, at least one, and reports the
end of the stream. -/
structure StreamRead.RanOut (r : StreamRead) : Prop where
  ended : r.result = .error (.of .endOfStream) ∨ r.result = .error (.of .unexpectedEnd)
  started : r.used ≠ 0
  rest : r.rest = []

/-- A read of nothing takes nothing and reports the end of the stream. -/
theorem StreamRead.packetInto_nil (cap : ReadBuffer) :
    StreamRead.packetInto [] cap = ⟨.error (.of .endOfStream), 0, []⟩ := by
  have notDecode : (Failure.of .endOfStream).is .decode = false := by decide
  simp only [StreamRead.packetInto, FixedHeader.readFrom, FixedHeader.read, bind, EStateM.bind,
    Filling.read]
  simp [Reading.byte, notDecode]

/-- A read of a frame whose body is cut short runs out of data, whether the frame fits the
buffer or not. -/
theorem Frame.packetInto_cutBody (f : Frame) {after more : Bytes} (body : f.body = after ++ more)
    (missing : more ≠ []) (cap : ReadBuffer) :
    (StreamRead.packetInto (f.first :: f.lengthBytes ++ after) cap).RanOut := by
  have longer : f.header.remainingLength > after.length := by
    have gap := List.length_pos_iff.mpr missing
    simp only [Frame.header, body, List.length_append]
    omega
  have taken : (f.first :: f.lengthBytes ++ after).length - after.length =
      1 + f.lengthBytes.length := by
    simp only [List.cons_append, List.length_cons, List.length_append]
    omega
  simp only [StreamRead.packetInto, f.readFrom_header after, taken, longer, if_true]
  split
  · refine ⟨?_, by simp, rfl⟩
    unfold StreamRead.skipShortfall
    split <;> simp
  · refine ⟨?_, by simp, rfl⟩
    unfold Reading.shortfall
    split <;> simp

/-- A read of a remaining length cut short runs out of data. -/
theorem StreamRead.packetInto_cutLength {b : UInt8}
    (names : (FixedHeader.ofFirstByte b).kind?.isSome) {bs pre more : Bytes} {v : Nat}
    (spelled : LengthSpelling bs v) (short : bs.length ≤ 4) (cut : pre ++ more = bs)
    (missing : more ≠ []) (cap : ReadBuffer) :
    (StreamRead.packetInto (b :: pre) cap).RanOut := by
  have notDecode : (Failure.of .endOfStream).is .decode = false := by decide
  simp only [StreamRead.packetInto, FixedHeader.readFrom_cutLength names spelled short cut missing,
    notDecode, Bool.false_eq_true, if_false]
  exact ⟨.inl rfl, by simp, rfl⟩

/-- A read of a frame cut short, wherever the cut falls, runs out of data. -/
theorem Frame.packetInto_cut {f : Frame} {s : Bytes} (cut : f.Cut s) (cap : ReadBuffer) :
    (StreamRead.packetInto s cap).RanOut := by
  obtain ⟨started, more, missing, joined⟩ := cut
  obtain ⟨b, t, rfl⟩ := List.exists_cons_of_ne_nil started
  simp only [Frame.bytes, List.cons_append, List.cons.injEq] at joined
  obtain ⟨rfl, joined⟩ := joined
  rcases List.append_eq_append_iff.mp joined with ⟨a', inLength, rest⟩ | ⟨c', inBody, body⟩
  · by_cases ended : a' = []
    · -- the cut falls right after the remaining length, before any byte of the body
      subst ended
      rw [List.append_nil] at inLength
      rw [List.nil_append] at rest
      have ran := f.packetInto_cutBody (show f.body = [] ++ more by rw [rest]; rfl) missing cap
      rwa [List.append_nil, inLength] at ran
    · exact StreamRead.packetInto_cutLength f.names_kind f.spells_length f.short_length
        inLength.symm ended cap
  · -- the cut falls in the body
    have ran := f.packetInto_cutBody body missing cap
    rwa [List.cons_append, ← inBody] at ran

/-- A read of a malformed fixed header is a failed read, whatever the buffer. -/
theorem MalformedHeader.packetInto {s : Bytes} (bad : MalformedHeader s) (cap : ReadBuffer) :
    ∃ t, (StreamRead.packetInto s cap).result = .error (.detail .readFailed t) := by
  cases bad with
  | kind noKind =>
    have isDecode : (Failure.of .invalidPacketType).is .decode = true := by decide
    simp only [StreamRead.packetInto, FixedHeader.readFrom_noKind noKind, isDecode, if_true]
    exact ⟨_, rfl⟩
  | length names four high =>
    have isDecode : (Failure.of .lengthMalformed).is .decode = true := by decide
    simp only [StreamRead.packetInto, FixedHeader.readFrom_continued names four high, isDecode,
      if_true]
    exact ⟨_, rfl⟩

end Mqtt
