import Mqtt.Proofs.AcceptedBodies
import Mqtt.Proofs.RoundTrip
import Mqtt.Proofs.DecodePaths
/-! # Canonical frames

`Proofs/RoundTrip` shows that a written packet decodes to itself. The converse fails as soon as
the reader is more lenient than the writer, and `Codec.encode_decoded` says by how much: a buffer
that decodes to a packet that passes its checks starts with exactly the bytes the codec writes
for the packet, provided the remaining length is spelled in the fewest bytes, a CONNECT packet
carries its own protocol name and level and is read under the flags byte its fields give, and
the codec's limit on topic filters holds. `Codec.encode_decoded_longSpelling` is a frame that
decodes but is written differently.

The proof puts three pieces together:
* a buffer that decodes starts with a whole `Frame` whose body reads as the packet
  (`Codec.decode_eq_ok`);
* a remaining length spelled in the fewest bytes is the writer's spelling
  (`LengthSpelling.eq_lengthGroups`);
* a body read to its end is the written body of the packet read (`Packet.encode_of_readBody`,
  from the inversions of `Proofs/AcceptedBodies`).
-/

namespace Mqtt

/-! ## Shortest spellings -/

theorem LengthSpelling.lt_pow {bs : Bytes} {v : Nat} (h : LengthSpelling bs v) :
    v < Nat.pow 128 bs.length := by
  induction h with
  | last hb => simpa using hb
  | @group b bs w hb rest ih =>
    have hlow : b.toNat % 128 < 128 := Nat.mod_lt _ (by decide)
    calc b.toNat % 128 + 128 * w < 128 * (w + 1) := by omega
      _ ≤ 128 * Nat.pow 128 bs.length := Nat.mul_le_mul_left _ ih
      _ = Nat.pow 128 (b :: bs).length := Nat.mul_comm _ _

theorem LengthSpelling.le_max {bs : Bytes} {v : Nat} (h : LengthSpelling bs v)
    (short : bs.length ≤ 4) : v ≤ maxRemainingLength := by
  have hlt := h.lt_pow
  have hpow : Nat.pow 128 bs.length ≤ Nat.pow 128 4 := Nat.pow_le_pow_right (by decide) short
  have h4 : Nat.pow 128 4 = maxRemainingLength + 1 := rfl
  omega

/-- Two spellings of one length in the same number of bytes are the same bytes. -/
theorem LengthSpelling.unique {bs cs : Bytes} {v w : Nat} (hb : LengthSpelling bs v)
    (hc : LengthSpelling cs w) (same : v = w) (hlen : bs.length = cs.length) : bs = cs := by
  induction hb generalizing cs w with
  | @last b hb =>
    cases hc with
    | @last c hc' =>
      have : b = c := UInt8.toNat_inj.mp same
      rw [this]
    | group _ rest =>
      have := rest.length_pos
      simp only [List.length_cons, List.length_nil] at hlen
      omega
  | @group b bs v hb rest ih =>
    cases hc with
    | last _ =>
      have := rest.length_pos
      simp only [List.length_cons, List.length_nil] at hlen
      omega
    | @group c cs w' hc' rest' =>
      -- the low seven bits and the groups after them are each determined by the length
      have hlow : b.toNat % 128 = c.toNat % 128 := by omega
      have hhigh : v = w' := by omega
      have hbyte : b = c := by
        apply UInt8.toNat_inj.mp
        have := b.toNat_lt
        have := c.toNat_lt
        omega
      rw [hbyte, ih rest' hhigh (by simpa using hlen)]

theorem Field.length_lengthGroups {v : Nat} (hv : v ≤ maxRemainingLength) :
    (Field.lengthGroups v).length = Field.lengthSize v := by
  simp only [maxRemainingLength] at hv
  simp only [Field.lengthGroups, Field.lengthSize]
  -- one group for every seven bits, up to four
  by_cases h1 : v < 128
  · simp [Field.lengthGroups.go, h1]
  by_cases h2 : v < 16384
  · have g2 : v / 128 < 128 := by omega
    simp [Field.lengthGroups.go, h1, h2, g2]
  by_cases h3 : v < 2097152
  · have g2 : ¬ v / 128 < 128 := by omega
    have g3 : v / 128 / 128 < 128 := by omega
    simp [Field.lengthGroups.go, h1, h2, h3, g2, g3]
  · have g2 : ¬ v / 128 < 128 := by omega
    have g3 : ¬ v / 128 / 128 < 128 := by omega
    have g4 : v / 128 / 128 / 128 < 128 := by omega
    simp [Field.lengthGroups.go, h1, h2, h3, g2, g3, g4]

/-- A spelling in the fewest bytes is the writer's. -/
theorem LengthSpelling.eq_lengthGroups {bs : Bytes} {v : Nat} (h : LengthSpelling bs v)
    (hlen : bs.length ≤ 4) (shortest : bs.length = Field.lengthSize v) :
    bs = Field.lengthGroups v := by
  have hv := h.le_max hlen
  obtain ⟨spelled, -⟩ := Field.lengthGroups_spelling hv
  exact h.unique spelled rfl (by rw [Field.length_lengthGroups hv, shortest])

/-! ## A buffer that decodes starts with a frame -/

theorem FixedHeader.readFrom_nil : FixedHeader.readFrom [] = (default, [], some (.of .endOfStream)) :=
  rfl

/-- Whatever a codec reads a packet from starts with a whole frame whose body reads as that
packet; the bytes used are the frame's. -/
theorem Codec.decode_eq_ok {c : Codec} {b : Bytes} {p : Packet} {n : Nat}
    (hd : c.decode b = .ok (p, n)) :
    ∃ (f : Frame) (after : Bytes), b = f.bytes ++ after ∧ n = f.bytes.length ∧ f.decoded = .ok p := by
  have failed : ∀ {h rest e}, FixedHeader.readFrom b = (h, rest, some e) → False := fun fails => by
    simpa [hd, Except.toOption] using Codec.decode_of_readFrom c fails
  rcases Bytes.shape b with rfl | ⟨f, after, rfl⟩ | ⟨f, cut⟩ | bad
  · exact (failed FixedHeader.readFrom_nil).elim
  · -- a whole frame: its body decides the packet
    refine ⟨f, after, rfl, ?_⟩
    rw [Frame.decode_bytes] at hd
    cases hf : f.decoded with
    | error e => simp [hf, Except.map, Except.mapError] at hd
    | ok p' =>
      simp only [hf, Except.map, Except.mapError, Except.ok.injEq, Prod.mk.injEq] at hd
      obtain ⟨rfl, rfl⟩ := hd
      exact ⟨rfl, rfl⟩
  · -- a cut frame: either its remaining length or its body runs out
    obtain ⟨nonempty, more, missing, hcut⟩ := cut
    have bodyCut : ∀ c', f.body = c' ++ more → FixedHeader.readFrom b = (f.header, c', none) →
        False := by
      intro c' hbody hheader
      have short : f.header.remainingLength > c'.length := by
        simp [Frame.header, hbody, List.length_pos_iff.mpr missing]
      simp [Codec.decode, Codec.readHeader, hheader, short, bind, Except.bind] at hd
    obtain ⟨x, pre, rfl⟩ := List.exists_cons_of_ne_nil nonempty
    simp only [Frame.bytes, List.cons_append, List.cons.injEq] at hcut
    obtain ⟨rfl, hcut⟩ := hcut
    rcases List.append_eq_append_iff.mp hcut with ⟨a', hlb, rfl⟩ | ⟨c', rfl, hbody⟩
    · by_cases ha : a' = []
      · -- the remaining length is whole and the body is missing
        subst ha
        simp only [List.append_nil] at hlb
        subst hlb
        exact (bodyCut [] (by simp) (by simpa using Frame.readFrom_header f [])).elim
      · exact (failed (FixedHeader.readFrom_cutLength f.names_kind f.spells_length f.short_length
          hlb.symm ha)).elim
    · exact (bodyCut c' hbody (by simpa using Frame.readFrom_header f c')).elim
  · cases bad with
    | kind noKind => exact (failed (FixedHeader.readFrom_noKind noKind _)).elim
    | length names four high => exact (failed (FixedHeader.readFrom_continued names four high _)).elim

/-- A frame whose body reads as a packet: the body reader reaches it using the whole body. -/
theorem Frame.readBody_of_decoded {f : Frame} {p : Packet} (hd : f.decoded = .ok p) :
    ∃ r, Packet.readBody f.header (Packet.empty (f.header.kind?.getD .connect))
        (f.body, Packet.empty (f.header.kind?.getD .connect)) = .ok () (r, p) ∧
      f.body.length - r.length = f.body.length := by
  simp only [Frame.decoded, Packet.readFrame, Packet.readBodyFrom] at hd
  rcases hread : Packet.readBody f.header (Packet.empty (f.header.kind?.getD .connect))
      (f.body, Packet.empty (f.header.kind?.getD .connect)) with ⟨⟨⟩, ⟨r, p'⟩⟩ | ⟨e, ⟨r, p'⟩⟩
  · simp only [hread, bne_iff_ne, ne_eq] at hd
    -- a body that stops short of its length is refused
    split_ifs at hd with hused
    cases hd
    exact ⟨r, rfl, by simpa [Frame.header] using hused⟩
  · simp [hread] at hd

/-! ## Writing what was read -/

theorem FixedHeader.firstByte_ofFirstByte (b : UInt8) : (FixedHeader.ofFirstByte b).firstByte = b := by
  have table : ∀ n : Nat, n < 256 →
      (FixedHeader.ofFirstByte n.toUInt8).firstByte = n.toUInt8 := by
    decide +kernel
  simpa using table b.toNat b.toNat_lt

theorem FixedHeader.firstByte_congr {h h' : FixedHeader} (hc : h.code = h'.code)
    (hf : h.flags = h'.flags) : h.firstByte = h'.firstByte := by
  simp [FixedHeader.firstByte, hc, hf]

/-- A header of a kind with its reserved flags starts as the kind's headers are written. -/
theorem FixedHeader.firstByte_kind {h : FixedHeader} {k : PacketKind} (hcode : h.code = k.code)
    (hflags : h.flags = k.reservedFlags) (n : Nat) :
    h.firstByte = (FixedHeader.mk k.code k.reservedFlags n).firstByte := by
  simp [FixedHeader.firstByte, hcode, hflags]

/-- The flags every kind but PUBLISH accepts are its reserved flags. -/
theorem FixedHeader.flags_of_checkFlags {h : FixedHeader} {k : PacketKind} (hcode : h.code = k.code)
    (hk : k ≠ .publish) (hc : h.checkFlags = .ok ()) : h.flags = k.reservedFlags := by
  have hkind : h.kind? = some k := by simp [FixedHeader.kind?, hcode, PacketKind.ofCode?_code]
  unfold FixedHeader.checkFlags at hc
  rw [hkind] at hc
  cases k <;> simp_all

/-- A header of a kind other than PUBLISH that passes its flags check starts as the kind's
headers are written. -/
theorem FixedHeader.firstByte_of_checkFlags {h : FixedHeader} {k : PacketKind}
    (hcode : h.code = k.code) (hk : k ≠ .publish) (hc : h.checkFlags = .ok ()) (n : Nat) :
    h.firstByte = (FixedHeader.mk k.code k.reservedFlags n).firstByte :=
  FixedHeader.firstByte_kind hcode (FixedHeader.flags_of_checkFlags hcode hk hc) n

/-- A flags nibble is given by its DUP, QoS and RETAIN bits. -/
theorem FixedHeader.flags_eq_of_bits {h h' : FixedHeader} (hf : h.flags.toNat < 16)
    (hf' : h'.flags.toNat < 16) (hdup : h.dup = h'.dup) (hqos : h.qos = h'.qos)
    (hret : h.retain = h'.retain) : h.flags = h'.flags := by
  have table : ∀ n : Nat, n < 16 → ∀ m : Nat, m < 16 →
      (n.toUInt8 &&& 0x08 != 0) = (m.toUInt8 &&& 0x08 != 0) →
      (n.toUInt8 &&& 0x06) >>> 1 = (m.toUInt8 &&& 0x06) >>> 1 →
      (n.toUInt8 &&& 0x01 != 0) = (m.toUInt8 &&& 0x01 != 0) → n.toUInt8 = m.toUInt8 := by
    decide +kernel
  simpa using table h.flags.toNat hf h'.flags.toNat hf' (by simpa [FixedHeader.dup] using hdup)
    (by simpa [FixedHeader.qos] using hqos) (by simpa [FixedHeader.retain] using hret)

theorem Emission.framed_eq_ok {h : FixedHeader} {b : Bytes} (hkind : h.kind?.isSome)
    (hrl : h.remainingLength ≤ maxRemainingLength) :
    Emission.framed h (.ok b) = .ok (h.firstByte :: Field.lengthGroups h.remainingLength ++ b) := by
  obtain ⟨k, hk⟩ := Option.isSome_iff_exists.mp hkind
  have hlen : ¬ h.remainingLength > maxRemainingLength := by omega
  simp [Emission.framed, FixedHeader.encode, hk, Field.length, hlen, Emission.ok]

/-- A packet with a body that passes its checks is written as its body behind its header. -/
theorem Packet.encode_bodied_eq {q : Packet} {b : Bytes} (hq : q.kind ∈ PacketKind.bodied)
    (hv : q.validate = .ok ()) (hb : q.body = .ok b) :
    q.encode = Emission.framed (q.frameHeader b.length) (.ok b) := by
  cases q <;> simp [PacketKind.bodied, Packet.kind] at hq
  all_goals
    unfold Packet.encode
    simp only [hv, hb]
    rfl

/-- A packet with a body that passes its checks, and is short enough for a remaining length, is
written as the first byte of its header, the length's groups and the body. -/
theorem Packet.encode_bodied_frame {q : Packet} {b : Bytes} (hq : q.kind ∈ PacketKind.bodied)
    (hv : q.validate = .ok ()) (hb : q.body = .ok b) (hmax : b.length ≤ maxRemainingLength) :
    q.encode = .ok ((q.frameHeader b.length).firstByte :: Field.lengthGroups b.length ++ b) := by
  obtain ⟨-, -, hkind, hrl⟩ := Packet.frameHeader_bits hv b.length
  have h32 : FixedHeader.length32 b.length = b.length := by
    simp only [FixedHeader.length32, maxRemainingLength] at hmax ⊢
    omega
  rw [Packet.encode_bodied_eq hq hv hb, Emission.framed_eq_ok (by simp [hkind]) (by omega), hrl, h32]

/-- The codec writes a packet as it is when the packet sets its own protocol name and level and
has no more topic filters than the codec allows. -/
theorem Codec.prepare_self {c : Codec} {q : Packet}
    (few : 0 < c.maxTopicFilters → (q.entryCount : Int) ≤ c.maxTopicFilters)
    (named : ∀ x, q = .connect x → x.protocolName ≠ [] ∧ x.protocolLevel ≠ 0) :
    c.prepare (some q) = .ok q := by
  have within : (decide (0 < c.maxTopicFilters) && decide ((q.entryCount : Int) > c.maxTopicFilters)) = false := by
    by_cases h : 0 < c.maxTopicFilters
    · have := few h
      simp [h]
      omega
    · simp [h]
  simp only [Codec.prepare, within, Bool.false_eq_true, if_false]
  cases q
  case connect x =>
    obtain ⟨hn, hl⟩ := named x rfl
    simp [List.isEmpty_iff, hn, hl]
  all_goals rfl

theorem Codec.encode_of_emission {c : Codec} {q : Packet} {bytes : Bytes} {cap : Nat}
    (hprep : c.prepare (some q) = .ok q) (he : q.encode = .ok bytes) (hcap : bytes.length ≤ cap) :
    c.encode cap (some q) = .ok bytes := by
  have : ¬ bytes.length > cap := by omega
  simp [Codec.encode, hprep, he, Emission.ok, this, bind, Except.bind]

/-- A body read to its end leaves nothing over: it is what the reader took. -/
theorem eq_of_used {body b r : Bytes} (hbody : body = b ++ r)
    (hused : body.length - r.length = body.length) : r = [] ∧ body = b := by
  subst hbody
  simp only [List.length_append] at hused
  obtain rfl : r = [] := List.eq_nil_of_length_eq_zero (by omega)
  exact ⟨rfl, List.append_nil b⟩

theorem Packet.encode_of_readBody {H : FixedHeader} {k : PacketKind} {body r : Bytes} {p : Packet}
    (hkind : H.kind? = some k) (hflags : H.flags.toNat < 16)
    (hread : Packet.readBody H (Packet.empty k) (body, Packet.empty k) = .ok () (r, p))
    (hused : body.length - r.length = body.length) (hmax : body.length ≤ maxRemainingLength)
    (hv : p.validate = .ok ())
    (named : ∀ q, p = .connect q →
      q.protocolName ≠ [] ∧ q.protocolLevel ≠ 0 ∧ body[q.protocolName.length + 3]? = some q.flagsByte) :
    p.encode = .ok (H.firstByte :: Field.lengthGroups body.length ++ body) := by
  cases k
  all_goals
    simp only [Packet.empty, Packet.readBody, Filling.focus_eq_ok] at hread
  case connect =>
    obtain ⟨q, hq, rfl⟩ := hread
    obtain ⟨hcode, hcheck, hfits, f, hbody⟩ := Connect.readBody_eq_ok hq
    obtain ⟨rfl, rfl⟩ := eq_of_used hbody hused
    obtain ⟨hname, hlevel, hflag⟩ := named q rfl
    -- the flags byte stands right after the protocol name and level
    have hf : f = q.flagsByte := by
      have atFlags : (q.wireBody f)[q.protocolName.length + 3]? = some f := by
        simp only [Connect.wireBody, List.append_assoc]
        rw [List.getElem?_append_right (by simp only [Bytes.length_framed]; omega)]
        have hat : q.protocolName.length + 3 - q.protocolName.framed.length = 1 := by
          simp only [Bytes.length_framed]
          omega
        rw [hat]
        rfl
      rw [atFlags] at hflag
      exact Option.some.inj hflag
    subst hf
    rw [Packet.encode_bodied_frame (by simp [PacketKind.bodied, Packet.kind]) hv
      (Connect.body_wireBody hv hfits hname hlevel) hmax]
    rw [FixedHeader.firstByte_of_checkFlags hcode (by decide : PacketKind.connect ≠ .publish) hcheck 0]
    rfl
  case publish =>
    obtain ⟨q, hq, rfl⟩ := hread
    obtain ⟨hcode, -, hdup, hqos, hret, -, b, hb, hbody⟩ := Publish.readBody_eq_ok hq
    obtain ⟨rfl, rfl⟩ := eq_of_used hbody hused
    rw [Packet.encode_bodied_frame (by simp [PacketKind.bodied, Packet.kind]) hv hb hmax]
    -- the header is built again from the packet's DUP, QoS and RETAIN bits
    obtain ⟨hcode', hdup', hqos', hret', hflags', -⟩ :=
      Publish.header_bits q body.length (Publish.validate_qos hv)
    have rebuilt : (q.header body.length).firstByte = H.firstByte :=
      FixedHeader.firstByte_congr (hcode'.trans hcode.symm)
        (FixedHeader.flags_eq_of_bits hflags' hflags (hdup'.trans hdup) (hqos'.trans hqos)
          (hret'.trans hret))
    simp only [Packet.frameHeader, rebuilt]
  case subscribe =>
    obtain ⟨q, hq, rfl⟩ := hread
    obtain ⟨hcode, hcheck, b, hb, hbody⟩ := Subscribe.readBody_eq_ok hq
    obtain ⟨rfl, rfl⟩ := eq_of_used hbody hused
    rw [Packet.encode_bodied_frame (by simp [PacketKind.bodied, Packet.kind]) hv hb hmax,
      FixedHeader.firstByte_of_checkFlags hcode (by decide : PacketKind.subscribe ≠ .publish) hcheck 0]
    rfl
  case unsubscribe =>
    obtain ⟨q, hq, rfl⟩ := hread
    obtain ⟨hcode, hcheck, b, hb, hbody⟩ := Unsubscribe.readBody_eq_ok hq
    obtain ⟨rfl, rfl⟩ := eq_of_used hbody hused
    rw [Packet.encode_bodied_frame (by simp [PacketKind.bodied, Packet.kind]) hv hb hmax,
      FixedHeader.firstByte_of_checkFlags hcode (by decide : PacketKind.unsubscribe ≠ .publish) hcheck 0]
    rfl
  case suback =>
    obtain ⟨q, hq, rfl⟩ := hread
    obtain ⟨hcode, hcheck, hbody⟩ := Suback.readBody_eq_ok hq
    obtain ⟨rfl, rfl⟩ := eq_of_used hbody hused
    rw [Packet.encode_bodied_frame (by simp [PacketKind.bodied, Packet.kind]) hv rfl hmax,
      FixedHeader.firstByte_of_checkFlags hcode (by decide : PacketKind.suback ≠ .publish) hcheck 0]
    rfl
  case connack =>
    obtain ⟨c, hc, rfl⟩ := hread
    obtain ⟨hcode, hcheck, -, hbody⟩ := Connack.readBody_eq_ok hc
    obtain ⟨rfl, rfl⟩ := eq_of_used hbody hused
    unfold Packet.encode
    simp only [hv]
    rw [FixedHeader.firstByte_of_checkFlags hcode (by decide : PacketKind.connack ≠ .publish) hcheck 0]
    rfl
  case puback | pubrec | pubrel | pubcomp | unsuback =>
    obtain ⟨i, hi, rfl⟩ := hread
    obtain ⟨hcode, hflags', -, hbody⟩ := readAck_eq_ok hi
    obtain ⟨rfl, rfl⟩ := eq_of_used hbody hused
    -- an acknowledgment that passes its checks has an identifier
    have hi0 : (i == 0) = false := by
      cases h0 : i == 0
      · rfl
      · simp [Packet.validate, h0] at hv
    unfold Packet.encode
    simp only [ackFrame, hi0, Bool.false_eq_true, if_false, FixedHeader.firstByte_kind hcode hflags' 2]
    rfl
  case pingreq | pingresp | disconnect =>
    obtain ⟨hcode, hflags', -, rfl, rfl⟩ := readEmpty_eq_ok hread
    obtain rfl : r = [] := List.eq_nil_of_length_eq_zero (by omega)
    unfold Packet.encode
    rw [FixedHeader.firstByte_kind hcode hflags' 0]
    rfl

theorem Frame.getElem?_bytes_body (f : Frame) (i : Nat) :
    f.bytes[1 + f.lengthBytes.length + i]? = f.body[i]? := by
  have shift : 1 + f.lengthBytes.length + i = (f.lengthBytes.length + i) + 1 := by omega
  rw [shift, Frame.bytes, List.cons_append, List.getElem?_cons_succ,
    List.getElem?_append_right (by omega), Nat.add_sub_cancel_left]

/-- A frame that reads as a packet that passes its checks is the packet's own encoding, when its
remaining length is spelled in the fewest bytes and a CONNECT packet names its own protocol and
level and is read under its own flags byte. -/
theorem Frame.encode_of_decoded {f : Frame} {p : Packet} (hd : f.decoded = .ok p)
    (hv : p.validate = .ok ()) (shortest : f.lengthBytes.length = Field.lengthSize f.body.length)
    (named : ∀ q, p = .connect q →
      q.protocolName ≠ [] ∧ q.protocolLevel ≠ 0 ∧ f.body[q.protocolName.length + 3]? = some q.flagsByte) :
    p.encode = .ok f.bytes := by
  obtain ⟨r, hread, hused⟩ := Frame.readBody_of_decoded hd
  obtain ⟨k, hkind⟩ := Option.isSome_iff_exists.mp f.names_kind
  have hkind' : f.header.kind? = some k := hkind
  rw [hkind', Option.getD_some] at hread
  have hflags : f.header.flags.toNat < 16 := by
    simp only [Frame.header, FixedHeader.ofFirstByte, UInt8.toNat_and]
    exact Nat.lt_of_le_of_lt Nat.and_le_right (by decide)
  rw [Packet.encode_of_readBody hkind' hflags hread hused (f.spells_length.le_max f.short_length) hv
    named]
  -- the frame's own bytes: its first byte, and the writer's spelling of its length
  have hfirst : f.header.firstByte = f.first := FixedHeader.firstByte_ofFirstByte f.first
  rw [hfirst, ← f.spells_length.eq_lengthGroups f.short_length shortest]
  rfl

/-- Decoding is canonical on valid packets up to the freedoms the reader allows: a buffer that
reads as a packet that passes its checks holds, in front, exactly what the codec writes for the
packet, when the remaining length is spelled in the fewest bytes, a CONNECT packet has its own
protocol name and level and the flags byte the packet gives, and the codec's limit on topic
filters, if it has one, holds. -/
theorem Codec.encode_decoded (c : Codec) {b : Bytes} {p : Packet} {n : Nat}
    (decoded : c.decode b = .ok (p, n)) (valid : p.validate = .ok ())
    {h : FixedHeader} (header : (FixedHeader.readFrom b).1 = h)
    (shortest : n = h.size + h.remainingLength)
    (named : ∀ q, p = .connect q → q.protocolName ≠ [] ∧ q.protocolLevel ≠ 0 ∧
      (b.take n)[h.size + q.protocolName.length + 3]? = some q.flagsByte)
    (few : 0 < c.maxTopicFilters → (p.entryCount : Int) ≤ c.maxTopicFilters)
    {cap : Nat} (room : n ≤ cap) :
    c.encode cap (some p) = .ok (b.take n) := by
  obtain ⟨f, after, rfl, rfl, hd⟩ := Codec.decode_eq_ok decoded
  obtain rfl : f.header = h := by rw [← header, Frame.readFrom_bytes]
  have hframe : (f.bytes ++ after).take f.bytes.length = f.bytes := List.take_left
  have short : f.lengthBytes.length = Field.lengthSize f.body.length := by
    simp only [FixedHeader.size, Frame.header, Frame.length_bytes] at shortest
    omega
  have hsize : f.header.size = 1 + f.lengthBytes.length := by
    simp [FixedHeader.size, Frame.header, short]
  -- the flags byte of a CONNECT frame stands in its body
  have named' : ∀ q, p = .connect q → q.protocolName ≠ [] ∧ q.protocolLevel ≠ 0 ∧
      f.body[q.protocolName.length + 3]? = some q.flagsByte := by
    intro q hq
    obtain ⟨hn, hl, hf⟩ := named q hq
    refine ⟨hn, hl, ?_⟩
    rw [hframe, hsize, Nat.add_assoc, Frame.getElem?_bytes_body] at hf
    exact hf
  rw [hframe]
  exact Codec.encode_of_emission
    (Codec.prepare_self few fun x hx => ⟨(named x hx).1, (named x hx).2.1⟩)
    (Frame.encode_of_decoded hd valid short named') room

/-- A CONNECT frame with its own protocol name, level and flags byte is what the default codec
writes for the packet it reads as. -/
theorem Codec.encode_decoded_connect :
    let b : Bytes := [0x10, 13, 0, 4, 0x4D, 0x51, 0x54, 0x54, 4, 2, 0, 0, 0, 1, 0x63]
    let q : Connect :=
      { protocolName := [0x4D, 0x51, 0x54, 0x54], protocolLevel := 4, clientId := [0x63],
        cleanSession := true }
    ({} : Codec).decode b = .ok (.connect q, 15) ∧ (Packet.connect q).validate = .ok () ∧
      (FixedHeader.readFrom b).1 = ⟨1, 0, 13⟩ ∧ 15 = (⟨1, 0, 13⟩ : FixedHeader).size + 13 ∧
      (∀ x, Packet.connect q = .connect x → x.protocolName ≠ [] ∧ x.protocolLevel ≠ 0 ∧
        (b.take 15)[(⟨1, 0, 13⟩ : FixedHeader).size + x.protocolName.length + 3]? =
          some x.flagsByte) ∧
      (0 < ({} : Codec).maxTopicFilters →
        ((Packet.connect q).entryCount : Int) ≤ ({} : Codec).maxTopicFilters) ∧ 15 ≤ 15 ∧
      ({} : Codec).encode 15 (some (.connect q)) = .ok (b.take 15) := by
  intro b q
  have hd : ({} : Codec).decode b = .ok (.connect q, 15) := by decide +kernel
  have hv : (Packet.connect q).validate = .ok () := by decide +kernel
  have hh : (FixedHeader.readFrom b).1 = ⟨1, 0, 13⟩ := by decide +kernel
  have hn : (15 : Nat) = (⟨1, 0, 13⟩ : FixedHeader).size + 13 := by decide
  have named : ∀ x, Packet.connect q = .connect x → x.protocolName ≠ [] ∧ x.protocolLevel ≠ 0 ∧
      (b.take 15)[(⟨1, 0, 13⟩ : FixedHeader).size + x.protocolName.length + 3]? =
        some x.flagsByte := by
    rintro x ⟨⟩
    decide +kernel
  have few : 0 < ({} : Codec).maxTopicFilters →
      ((Packet.connect q).entryCount : Int) ≤ ({} : Codec).maxTopicFilters := by decide
  exact ⟨hd, hv, hh, hn, named, few, le_rfl, Codec.encode_decoded {} hd hv hh hn named few le_rfl⟩

/-- The reader accepts a remaining length spelled in more bytes than it needs: `40 82 00 00 01` is
PUBACK 1 read from five bytes, and the codec writes PUBACK 1 in four. -/
theorem Codec.encode_decoded_longSpelling :
    ({} : Codec).decode [0x40, 0x82, 0x00, 0x00, 0x01] = .ok (.puback 1, 5) ∧
      (Packet.puback 1).validate = .ok () ∧
      ({} : Codec).encode 5 (some (.puback 1)) = .ok [0x40, 0x02, 0x00, 0x01] ∧
      [0x40, 0x02, 0x00, 0x01] ≠ ([0x40, 0x82, 0x00, 0x00, 0x01] : Bytes).take 5 :=
  ⟨by decide +kernel, by decide, by decide +kernel, by decide⟩

end Mqtt
