import Mqtt.Proofs.StreamShapes
/-! # Three ways of reading one frame

A frame can be read from the front of a buffer (`Codec.decode`), from a stream with a limit on
its size (`StreamRead.packet`), or from a stream through a buffer of fixed size
(`StreamRead.packetInto`). All three read the header and hand the body to the same body reader,
so on a frame within the limit and the buffer they succeed together, with the same packet, and
fail together, with the same failure once the header is read (`decodePaths_agree`).

They count the bytes they took differently. The first two count the bytes of the frame; the
third counts the header's own size, the first byte and the shortest spelling of the remaining
length, and the body. The counts agree exactly when the remaining length is spelled in the fewest
bytes.
-/

namespace Mqtt

/-- Every byte of a spelling but the last has its high bit set. -/
theorem LengthSpelling.continued_take {bs : Bytes} {v : Nat} (h : LengthSpelling bs v) :
    ∀ k, k < bs.length → ∀ c ∈ bs.take k, 128 ≤ c.toNat := by
  induction h with
  | last =>
    intro k hk c hc
    obtain rfl : k = 0 := by simpa using hk
    simp at hc
  | @group b bs v hb rest ih =>
    intro k hk c hc
    cases k with
    | zero => simp at hc
    | succ k =>
      rw [List.take_succ_cons, List.mem_cons] at hc
      rcases hc with rfl | hc
      · exact hb
      · exact ih k (by simpa using hk) c hc

/-! ## Reads that stop in the header -/

section HeaderFails

variable {s rest : Bytes} {h : FixedHeader} {e : Failure}

/-- A header that cannot be read fails every way of reading the frame. -/
theorem Codec.decode_of_readFrom (c : Codec) (fails : FixedHeader.readFrom s = (h, rest, some e)) :
    (c.decode s).toOption = none := by
  simp [Codec.decode, Codec.readHeader, fails, bind, Except.bind, Except.toOption]

theorem StreamRead.packet_of_readFrom (maxSize : Nat)
    (fails : FixedHeader.readFrom s = (h, rest, some e)) :
    (StreamRead.packet s maxSize).result = .error e := by
  simp [StreamRead.packet, fails]

theorem StreamRead.packetInto_of_readFrom (cap : ReadBuffer)
    (fails : FixedHeader.readFrom s = (h, rest, some e)) :
    (StreamRead.packetInto s cap).result.toOption = none := by
  simp only [StreamRead.packetInto, fails]
  rfl

end HeaderFails

/-! ## Reads of a whole frame -/

namespace Frame

variable (f : Frame) (after : Bytes)

theorem length_bytes : f.bytes.length = 1 + f.lengthBytes.length + f.body.length := by
  simp only [bytes, List.cons_append, List.length_cons, List.length_append]
  omega

/-- The bytes the header of a frame takes in front of what follows it. -/
theorem header_taken :
    (f.bytes ++ after).length - (f.body ++ after).length = 1 + f.lengthBytes.length := by
  simp only [length_bytes, List.length_append]
  omega

theorem body_present : ¬ f.header.remainingLength > (f.body ++ after).length := by
  simp [header]

theorem take_body : (f.body ++ after).take f.header.remainingLength = f.body := by
  simp [header]

theorem drop_body : (f.body ++ after).drop f.header.remainingLength = after := by
  simp [header]

/-- The body of a frame is read as the frame's decoded body. -/
theorem readFrame_header :
    Packet.readFrame f.header (Packet.empty (f.header.kind?.getD .connect)) f.body = f.decoded :=
  rfl

/-- Reading a frame from the front of a buffer: its decoded body, counted as the whole frame, or
the body's failure, counted to where the body reader stopped. -/
theorem decode_bytes (c : Codec) :
    c.decode (f.bytes ++ after) =
      (f.decoded.map (·, f.bytes.length)).mapError
        (fun (e, n) => (e, 1 + f.lengthBytes.length + n)) := by
  have counted : 1 + f.lengthBytes.length + f.header.remainingLength = f.bytes.length := by
    simp [length_bytes, header]
  simp only [Codec.decode, Codec.readHeader, readFrom_bytes, header_taken, body_present, if_false,
    take_body, readFrame_header, bind, Except.bind]
  cases f.decoded with
  | ok p => simp [counted, Except.map, Except.mapError]
  | error en => simp [Except.map, Except.mapError]

/-- Reading a frame within the size limit from a stream: its decoded body or the body's
failure, counted as the whole frame, with the stream left after it. -/
theorem packet_bytes {maxSize : Nat}
    (within : f.body.length ≤ maxSize ∨ maxSize = 0 ∧ f.body.length ≤ defaultMaxPacketSize) :
    StreamRead.packet (f.bytes ++ after) maxSize =
      ⟨f.decoded.mapError Prod.fst, f.bytes.length, after⟩ := by
  have allowed :
      ¬ f.header.remainingLength > (if maxSize == 0 then defaultMaxPacketSize else maxSize) := by
    simp only [header]
    split <;> rename_i zero <;> simp at zero <;> omega
  have counted : 1 + f.lengthBytes.length + f.header.remainingLength = f.bytes.length := by
    simp [length_bytes, header]
  simp only [StreamRead.packet, readFrom_bytes, header_taken, allowed, body_present, if_false,
    take_body, drop_body, counted, readFrame_header]
  cases f.decoded <;> rfl

/-- Reading a frame that fits the buffer from a stream: its decoded body or the body's failure,
counted by the header's own size and the body, with the stream left after it. -/
theorem packetInto_bytes {cap : ReadBuffer} (fits : f.total ≤ cap.size) :
    StreamRead.packetInto (f.bytes ++ after) cap = ⟨f.decoded.mapError Prod.fst, f.total, after⟩ := by
  have counted : f.header.size + f.header.remainingLength = f.total := by
    simp [total, header]
  have small : ¬ f.total > cap.size := Nat.not_lt.mpr fits
  simp only [StreamRead.packetInto, readFrom_bytes, header_taken, small, body_present, if_false,
    take_body, drop_body, counted, readFrame_header]
  cases f.decoded <;> rfl

/-- The three reads of a frame within the limit and the buffer agree: the same packet or the
same failure. The first two count the frame's bytes; the third counts the header's own size and
the body, which is the frame's length exactly when its remaining length is spelled shortest. -/
theorem paths_agree (c : Codec) {maxSize : Nat} {cap : ReadBuffer}
    (within : f.body.length ≤ maxSize ∨ maxSize = 0 ∧ f.body.length ≤ defaultMaxPacketSize)
    (fits : f.total ≤ cap.size) :
    ((c.decode (f.bytes ++ after)).mapError Prod.fst).map Prod.fst =
        (StreamRead.packet (f.bytes ++ after) maxSize).result ∧
      (StreamRead.packet (f.bytes ++ after) maxSize).result =
        (StreamRead.packetInto (f.bytes ++ after) cap).result ∧
      ∀ p n, c.decode (f.bytes ++ after) = .ok (p, n) →
        n = f.bytes.length ∧ (StreamRead.packet (f.bytes ++ after) maxSize).used = n ∧
        ((StreamRead.packetInto (f.bytes ++ after) cap).used = n ↔
          f.lengthBytes.length = Field.lengthSize f.body.length) := by
  rw [decode_bytes, packet_bytes f after within, packetInto_bytes f after fits]
  refine ⟨?_, rfl, ?_⟩
  · cases f.decoded <;> rfl
  · intro p n decoded
    -- a decoded frame is counted whole
    have whole : n = f.bytes.length := by
      cases hdec : f.decoded with
      | ok q =>
        rw [hdec] at decoded
        cases decoded
        rfl
      | error en =>
        rw [hdec] at decoded
        cases decoded
    subst whole
    exact ⟨rfl, rfl, f.total_eq_length_iff⟩

end Frame

/-- What the three ways of reading the bytes `b` agree on, where `b` holds a frame of
`frameLength` bytes whose header is read when `headerRead` holds and whose remaining length is
spelled in the fewest bytes when `shortest` holds. They succeed together, with the same packet;
once the header is read they fail together, with the same failure; and a decoded frame is counted
whole by the first two, and by the third exactly when its remaining length is spelled shortest. -/
structure PathsAgree (c : Codec) (maxSize : Nat) (cap : ReadBuffer) (b : Bytes) (headerRead : Prop)
    (frameLength : Nat) (shortest : Prop) : Prop where
  decode_packet :
    (c.decode b).toOption.map Prod.fst = (StreamRead.packet b maxSize).result.toOption
  packet_packetInto :
    (StreamRead.packet b maxSize).result.toOption = (StreamRead.packetInto b cap).result.toOption
  same_failure : headerRead →
    ((c.decode b).mapError Prod.fst).map Prod.fst = (StreamRead.packet b maxSize).result ∧
      (StreamRead.packet b maxSize).result = (StreamRead.packetInto b cap).result
  counted : ∀ p n, c.decode b = .ok (p, n) →
    n = frameLength ∧ (StreamRead.packet b maxSize).used = n ∧
      ((StreamRead.packetInto b cap).used = n ↔ shortest)

/-- The three ways of reading agree on every byte string that holds one frame within the size
limit and the buffer, whatever its first byte and however many bytes spell its remaining
length. -/
theorem decodePaths_agree (c : Codec) (first : UInt8) {lengthBytes body : Bytes}
    (spelled : LengthSpelling lengthBytes body.length) (after : Bytes) {maxSize : Nat} {cap : ReadBuffer}
    (within : body.length ≤ maxSize ∨ maxSize = 0 ∧ body.length ≤ defaultMaxPacketSize)
    (fits : 1 + Field.lengthSize body.length + body.length ≤ cap.size) :
    PathsAgree c maxSize cap (first :: lengthBytes ++ body ++ after)
      ((FixedHeader.ofFirstByte first).kind?.isSome ∧ lengthBytes.length ≤ 4)
      (first :: lengthBytes ++ body).length (lengthBytes.length = Field.lengthSize body.length) := by
  by_cases readable : (FixedHeader.ofFirstByte first).kind?.isSome ∧ lengthBytes.length ≤ 4
  · -- the header is read: the bytes are a frame followed by `after`
    obtain ⟨names, short⟩ := readable
    let f : Frame := ⟨first, lengthBytes, body, names, spelled, short⟩
    have framed : first :: lengthBytes ++ body ++ after = f.bytes ++ after := by simp [f, Frame.bytes]
    obtain ⟨same, same', counts⟩ := f.paths_agree after c within fits
    rw [framed]
    refine ⟨?_, by rw [same'], fun _ => ⟨same, same'⟩, counts⟩
    rw [← same]
    cases c.decode (f.bytes ++ after) <;> rfl
  · -- the header is not read, for want of a kind or of an end to the remaining length
    have stops : ∃ h rest e,
        FixedHeader.readFrom (first :: lengthBytes ++ body ++ after) = (h, rest, some e) := by
      cases kind : (FixedHeader.ofFirstByte first).kind? with
      | none => exact ⟨_, _, _, FixedHeader.readFrom_noKind kind _⟩
      | some k =>
        have names : (FixedHeader.ofFirstByte first).kind?.isSome := by simp [kind]
        have long : 4 < lengthBytes.length := Nat.lt_of_not_le fun short => readable ⟨names, short⟩
        have split : first :: lengthBytes ++ body ++ after =
            first :: lengthBytes.take 4 ++ (lengthBytes.drop 4 ++ body ++ after) := by
          simp only [List.cons_append, List.append_assoc, ← List.append_assoc (lengthBytes.take 4),
            List.take_append_drop]
        rw [split]
        exact ⟨_, _, _, FixedHeader.readFrom_continued names (by simp; omega)
          (spelled.continued_take 4 long) _⟩
    obtain ⟨h, rest, e, fails⟩ := stops
    have decodeFails := Codec.decode_of_readFrom c fails
    have packetFails := StreamRead.packet_of_readFrom maxSize fails
    have packetIntoFails := StreamRead.packetInto_of_readFrom cap fails
    refine ⟨by rw [decodeFails, packetFails]; rfl, by rw [packetFails, packetIntoFails]; rfl,
      fun headerRead => absurd headerRead readable, ?_⟩
    intro p n decoded
    rw [decoded] at decodeFails
    cases decodeFails

/-- A PUBACK whose remaining length, two, is spelled in two bytes, read through a buffer of five:
the three reads agree on it as they must, and the third counts four of its five bytes. -/
theorem decodePaths_agree_longSpelling :
    LengthSpelling [0x82, 0x00] 2 ∧ (2 ≤ 0 ∨ 0 = 0 ∧ 2 ≤ defaultMaxPacketSize) ∧
      1 + Field.lengthSize 2 + 2 ≤ 5 ∧
      PathsAgree {} 0 5 [0x40, 0x82, 0x00, 0x00, 0x01]
        ((FixedHeader.ofFirstByte 0x40).kind?.isSome ∧ [0x82, 0x00].length ≤ 4) 5
        ([0x82, 0x00].length = Field.lengthSize 2) :=
  ⟨.group (by decide) (.last (by decide)), .inr ⟨rfl, by decide⟩, by decide,
    @decodePaths_agree {} 0x40 [0x82, 0x00] [0x00, 0x01] (.group (by decide) (.last (by decide)))
      [] 0 5 (.inr ⟨rfl, by decide⟩) (by decide)⟩

example : ((({} : Codec).decode [0x40, 0x82, 0x00, 0x00, 0x01]).toOption,
    (StreamRead.packetInto [0x40, 0x82, 0x00, 0x00, 0x01] 5).used) = (some (.puback 1, 5), 4) := by
  decide

end Mqtt
