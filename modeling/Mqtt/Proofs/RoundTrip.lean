import Mqtt.Proofs.Bodies
import Mqtt.Codec
/-! # Writing a packet and reading it back

What a codec writes into a buffer it reads back from that buffer, whatever follows, as the wire
carries the packet: `Codec.decode_encode`. The wire drops what the writer does not write (the
will of a CONNECT packet without a will flag, the identifier of a PUBLISH packet of QoS 0) and
supplies what the writer supplies (a CONNECT packet's protocol name and level), which
`Packet.onWire` states. The written bytes are a header whose remaining length is the number of
body bytes behind it: `Packet.encode_frame`.

Two conditions are needed. The writer does not check that text is text, only the reader does:
a codec whose own protocol name is not text writes CONNECT packets it cannot read
(`Codec.decode_encode_unreadableName`). And the header's length field is 32 bits wide, so the
statement is about packets of fewer than `2 ^ 32` bytes.

The proof goes kind by kind: each writer's bytes are a frame (`Emission.framed_ok`,
`Packet.encode_frame`), a frame is read by its header and its body (`Codec.decode_frame`), and
each body is read back by the lemmas of `Mqtt.Proofs.Bodies`.
-/

namespace Mqtt

/-! ## The packet as the wire carries it -/

/-- The text fields of a packet: a CONNECT packet's protocol name, client identifier, will topic
and user name, a PUBLISH packet's topic, and the filters of SUBSCRIBE and UNSUBSCRIBE. -/
def Packet.textFields : Packet → List Bytes
  | .connect p => [p.protocolName, p.clientId, p.willTopic, p.username]
  | .publish p => [p.topic]
  | .subscribe p => p.subscriptions.map (·.filter)
  | .unsubscribe p => p.topicFilters
  | _ => []

/-- A packet as the wire carries it: a CONNECT packet gets the protocol name and level it is
written with and loses the will it does not announce, and a PUBLISH packet of QoS 0 loses its
identifier. -/
def Packet.onWire : Packet → Packet
  | .connect p => .connect { p with
      protocolName := p.nameOnWire, protocolLevel := p.levelOnWire,
      willTopic := if p.willFlag then p.willTopic else [],
      willMessage := if p.willFlag then p.willMessage else [] }
  | .publish p => .publish { p with packetId := if p.qos > 0 then p.packetId else 0 }
  | q => q

/-- A packet with the codec's protocol name and level where a CONNECT packet has none. -/
def Codec.complete (c : Codec) : Packet → Packet
  | .connect q => .connect { q with
      protocolName := if q.protocolName.isEmpty then c.protocolName else q.protocolName
      protocolLevel := if q.protocolLevel == 0 then c.protocolLevel else q.protocolLevel }
  | p => p

/-- A name that is text stays text on the wire: an empty one is written as `MQTT`. -/
theorem Connect.nameOnWire_isText {p : Connect} (h : p.protocolName.IsText) : p.nameOnWire.IsText := by
  unfold nameOnWire
  split
  · decide +kernel
  · exact h

/-! ## Writing -/

/-- A kind's code and reserved flags each fit in four bits. -/
theorem PacketKind.nibbles (k : PacketKind) : k.code.toNat < 16 ∧ k.reservedFlags.toNat < 16 := by
  cases k <;> decide

/-- The kinds of packet whose body is assembled field by field. -/
def PacketKind.bodied : List PacketKind := [.connect, .publish, .subscribe, .suback, .unsubscribe]

/-- The header a packet with a body of `n` bytes is written behind. -/
def Packet.frameHeader (q : Packet) (n : Nat) : FixedHeader :=
  match q with
  | .publish p => p.header n
  | _ => ⟨q.kind.code, q.kind.reservedFlags, FixedHeader.length32 n⟩

/-- A packet with a body that is written without a fault passes its checks and is written as its
body behind its header. -/
theorem Packet.encode_of_bodied {q : Packet} (hq : q.kind ∈ PacketKind.bodied)
    (hfail : q.encode.failure = none) :
    ∃ b, q.validate = .ok () ∧ q.body = .ok b ∧
      q.encode = Emission.framed (q.frameHeader b.length) (.ok b) := by
  cases q <;> simp [PacketKind.bodied, Packet.kind] at hq
  -- `unfold` rather than `simp [encode]`: building the case equations of `encode` runs past the
  -- recursion limit once all of Mathlib is imported
  all_goals
    unfold encode at hfail ⊢
    dsimp only at hfail ⊢
    split at hfail
    · simp [Emission.fail] at hfail
    · split at hfail
      · simp [Emission.fail] at hfail
      · exact ⟨_, ‹_›, ‹_›, rfl⟩

/-- A header followed by a body is written without a fault when the header names a kind and
its remaining length has at most four groups; the header's bytes are then its first byte and
the groups. -/
theorem Emission.framed_ok {h : FixedHeader} {b : Bytes}
    (hfail : (Emission.framed h (.ok b)).failure = none) :
    h.kind?.isSome ∧ h.remainingLength ≤ maxRemainingLength ∧
      (Emission.framed h (.ok b)).bytes = h.firstByte :: Field.lengthGroups h.remainingLength ++ b := by
  cases hkind : h.kind? with
  | none => simp [Emission.framed, FixedHeader.encode, hkind, Emission.fail] at hfail
  | some k =>
    by_cases hrl : h.remainingLength > maxRemainingLength
    · simp [Emission.framed, FixedHeader.encode, hkind, Field.length, hrl] at hfail
    · simp only [Emission.framed, FixedHeader.encode, hkind, Field.length, hrl, if_false,
        Emission.ok, Option.isSome_some, true_and]
      exact ⟨by omega, trivial⟩

/-- The header a packet is framed with names the packet's kind and holds the body length as
the header's field holds it. -/
theorem Packet.frameHeader_bits {q : Packet} (hv : q.validate = .ok ()) (n : Nat) :
    (q.frameHeader n).code.toNat < 16 ∧ (q.frameHeader n).flags.toNat < 16 ∧
      (q.frameHeader n).kind? = some q.kind ∧
      (q.frameHeader n).remainingLength = FixedHeader.length32 n := by
  cases q
  case publish p =>
    obtain ⟨hcode, -, -, -, hflags, hrl⟩ := Publish.header_bits p n (Publish.validate_qos hv)
    refine ⟨by simp [frameHeader, hcode], hflags, ?_, hrl⟩
    simp only [frameHeader, FixedHeader.kind?, hcode]
    rfl
  all_goals
    refine ⟨(PacketKind.nibbles _).1, (PacketKind.nibbles _).2, ?_, rfl⟩
    simp only [frameHeader, FixedHeader.kind?]
    exact PacketKind.ofCode?_code _

/-- Every packet written without a fault in fewer than `2 ^ 32` bytes is a first byte, the
groups of a remaining length, and exactly that many bytes of body. -/
theorem Packet.encode_frame (q : Packet) (hfail : q.encode.failure = none)
    (hsize : q.encode.bytes.length < 4294967296) :
    ∃ (h : FixedHeader) (body : Bytes),
      q.encode.bytes = h.firstByte :: Field.lengthGroups h.remainingLength ++ body ∧
      h.remainingLength = body.length := by
  by_cases hq : q.kind ∈ PacketKind.bodied
  · obtain ⟨b, hv, -, henc⟩ := Packet.encode_of_bodied hq hfail
    rw [henc] at hfail hsize ⊢
    obtain ⟨-, -, hbytes⟩ := Emission.framed_ok hfail
    obtain ⟨-, -, -, hlen32⟩ := Packet.frameHeader_bits hv b.length
    rw [hbytes] at hsize ⊢
    refine ⟨_, b, rfl, ?_⟩
    rw [hlen32]
    apply Nat.mod_eq_of_lt
    simp only [List.cons_append, List.length_cons, List.length_append] at hsize
    omega
  · cases q
    case connack p =>
      have hv : (connack p).validate = .ok () := by
        cases hv : (connack p).validate
        · unfold encode at hfail
          simp [hv, Emission.fail] at hfail
        · rfl
      unfold encode
      simp only [hv, Emission.ok]
      exact ⟨⟨2, 0, 2⟩, _, rfl, rfl⟩
    case puback i | pubrec i | pubrel i | pubcomp i | unsuback i =>
      have hi : (i == 0) = false := by
        cases h : i == 0
        · rfl
        · unfold encode at hfail
          simp [ackFrame, h, Emission.fail] at hfail
      unfold encode
      simp only [ackFrame, hi, Bool.false_eq_true, if_false, Emission.ok]
      exact ⟨_, Field.u16 i, rfl, rfl⟩
    case pingreq | pingresp | disconnect => exact ⟨_, [], rfl, rfl⟩
    all_goals simp [PacketKind.bodied, kind] at hq

/-- What a codec writes into a buffer is the packet it completes, written without a fault. -/
theorem Codec.encode_eq_ok {c : Codec} {cap : Nat} {p : Packet} {b : Bytes}
    (henc : c.encode cap (some p) = .ok b) :
    (c.complete p).encode.failure = none ∧ (c.complete p).encode.bytes = b := by
  have hprep : c.prepare (some p) = .ok (c.complete p) ∨ ∃ f, c.prepare (some p) = .error f := by
    simp only [prepare]
    split
    · exact .inr ⟨_, rfl⟩
    · split <;> simp [complete]
  obtain hprep | ⟨f, hprep⟩ := hprep
  · simp only [encode, hprep, bind, Except.bind] at henc
    split at henc
    · cases henc
    · split at henc
      · cases henc
      · cases henc
        exact ⟨‹_›, rfl⟩
  · simp [encode, hprep, bind, Except.bind] at henc

/-! ## Reading -/

/-- A header is read back from its first byte and its remaining length's groups, whatever
follows them. -/
theorem FixedHeader.readFrom_encoded {h : FixedHeader} (hcode : h.code.toNat < 16)
    (hflags : h.flags.toNat < 16) (hkind : h.kind?.isSome)
    (hrl : h.remainingLength ≤ maxRemainingLength) (rest : Bytes) :
    FixedHeader.readFrom (h.firstByte :: Field.lengthGroups h.remainingLength ++ rest) =
      (h, rest, none) := by
  obtain ⟨spelled, hlen⟩ := Field.lengthGroups_spelling hrl
  have hfirst := FixedHeader.ofFirstByte_firstByte h hcode hflags
  have hkind' : (FixedHeader.ofFirstByte h.firstByte).kind?.isSome := by
    rw [hfirst]
    exact hkind
  simp only [FixedHeader.readFrom, FixedHeader.read_spelling hkind' spelled hlen rest, hfirst]

/-- A filling run through a view succeeds when it succeeds on the view. -/
theorem Filling.focus_ok {P Q α : Type} (get : P → Q) (put : Q → P) {f : Filling Q α} {s s' : Bytes}
    (p : P) {q : Q} {a : α} (h : f (s, get p) = .ok a (s', q)) :
    Filling.focus get put f (s, p) = .ok a (s', put q) := by
  simp [Filling.focus, h]

/-- Reading a buffer that starts with a whole frame: a header that names kind `k`, its remaining
length, and a body of that length that reads into the empty packet of kind `k` without a fault.
The packet read is the body's, and the bytes used are the frame's. -/
theorem Codec.decode_frame (c : Codec) {h : FixedHeader} {k : PacketKind}
    (hcode : h.code.toNat < 16) (hflags : h.flags.toNat < 16) (hkind : h.kind? = some k)
    (hrl : h.remainingLength ≤ maxRemainingLength) {body : Bytes}
    (hlen : body.length = h.remainingLength) {p : Packet}
    (hread : Packet.readBody h (Packet.empty k) (body, Packet.empty k) = .ok () ([], p))
    (s : Bytes) :
    c.decode (h.firstByte :: Field.lengthGroups h.remainingLength ++ body ++ s) =
      .ok (p, 1 + (Field.lengthGroups h.remainingLength).length + body.length) := by
  have hheader := FixedHeader.readFrom_encoded hcode hflags (by simp [hkind]) hrl (body ++ s)
  have hfits : ¬ h.remainingLength > (body ++ s).length := by
    simp only [List.length_append]
    omega
  have htake : (body ++ s).take h.remainingLength = body := List.take_left' hlen
  have hframe : Packet.readFrame h (Packet.empty k) body = .ok p := by
    simp [Packet.readFrame, Packet.readBodyFrom, hread, hlen]
  simp only [List.append_assoc] at hheader ⊢
  simp only [Codec.decode, Codec.readHeader, hheader, hfits, if_false, bind, Except.bind, hkind,
    Option.getD_some, htake, hframe]
  congr 2
  simp only [List.cons_append, List.length_cons, List.length_append]
  omega

/-- Reading back a packet with a body: once the packet is written without a fault in fewer than
`2 ^ 32` bytes, reading those bytes, whatever follows them, gives what the body reader reads from
the body into the empty packet of the kind, and uses all of them. -/
theorem Codec.decode_bodied (c : Codec) {q r : Packet} (hq : q.kind ∈ PacketKind.bodied)
    (hfail : q.encode.failure = none) (hsize : q.encode.bytes.length < 4294967296)
    (hread : ∀ b, q.validate = .ok () → q.body = .ok b →
      FixedHeader.length32 b.length = b.length →
      Packet.readBody (q.frameHeader b.length) (Packet.empty q.kind) (b, Packet.empty q.kind) =
        .ok () ([], r))
    (s : Bytes) :
    c.decode (q.encode.bytes ++ s) = .ok (r, q.encode.bytes.length) := by
  obtain ⟨b, hv, hb, henc⟩ := Packet.encode_of_bodied hq hfail
  rw [henc] at hfail hsize ⊢
  obtain ⟨-, hrl, hbytes⟩ := Emission.framed_ok hfail
  obtain ⟨hcode, hflags, hkind, hlen32⟩ := Packet.frameHeader_bits hv b.length
  rw [hbytes] at hsize ⊢
  -- below `2 ^ 32` bytes the header's length field holds the body length itself
  have hsmall : FixedHeader.length32 b.length = b.length := by
    apply Nat.mod_eq_of_lt
    simp only [List.cons_append, List.length_cons, List.length_append] at hsize
    omega
  have hlen : b.length = (q.frameHeader b.length).remainingLength := by rw [hlen32, hsmall]
  rw [Codec.decode_frame c hcode hflags hkind hrl hlen (hread b hv hb hsmall) s]
  simp only [List.cons_append, List.length_cons, List.length_append]
  congr 2
  omega

/-- Reading back an acknowledgment written without a fault: the identifier is read into the empty
packet of its kind. -/
theorem Codec.decode_ackFrame (c : Codec) (k : PacketKind) (i : UInt16)
    (hfail : (ackFrame k i).failure = none) {r : Packet}
    (hread : Packet.readBody ⟨k.code, k.reservedFlags, 2⟩ (Packet.empty k) (Field.u16 i, Packet.empty k) =
      .ok () ([], r)) (s : Bytes) :
    c.decode ((ackFrame k i).bytes ++ s) = .ok (r, (ackFrame k i).bytes.length) := by
  have hi : (i == 0) = false := by
    cases h : i == 0
    · rfl
    · simp [ackFrame, h, Emission.fail] at hfail
  have hframe := Codec.decode_frame c (h := ⟨k.code, k.reservedFlags, 2⟩) (k.nibbles).1 (k.nibbles).2
    (PacketKind.ofCode?_code k) (show 2 ≤ maxRemainingLength by decide) rfl hread s
  simp only [ackFrame, hi, Bool.false_eq_true, if_false, Emission.ok]
  exact hframe

/-- Reading back a packet without a body: its kind is read and nothing else. -/
theorem Codec.decode_emptyFrame (c : Codec) (k : PacketKind) {r : Packet}
    (hread : Packet.readBody ⟨k.code, 0, 0⟩ (Packet.empty k) ([], Packet.empty k) = .ok () ([], r))
    (s : Bytes) :
    c.decode ([(FixedHeader.mk k.code 0 0).firstByte, 0] ++ s) = .ok (r, 2) :=
  Codec.decode_frame c (h := ⟨k.code, 0, 0⟩) (k.nibbles).1 (show (0 : UInt8).toNat < 16 by decide)
    (PacketKind.ofCode?_code k) (show 0 ≤ maxRemainingLength by decide) rfl hread s

/-- The body of a packet with a body, written without a fault, is read back into the empty
packet of its kind as the wire carries the packet. -/
theorem Packet.readBody_written {q : Packet} (hq : q.kind ∈ PacketKind.bodied)
    (htext : ∀ t ∈ q.textFields, t.IsText) {b : Bytes} (hv : q.validate = .ok ())
    (hb : q.body = .ok b) (hsmall : FixedHeader.length32 b.length = b.length) :
    Packet.readBody (q.frameHeader b.length) (Packet.empty q.kind) (b, Packet.empty q.kind) =
      .ok () ([], q.onWire) := by
  cases q
  case connect p =>
    simp only [textFields, List.mem_cons, List.not_mem_nil, or_false, forall_eq_or_imp,
      forall_eq] at htext
    obtain ⟨hname, hcid, hwt, hun⟩ := htext
    have hbody := Connect.readBody_body p hv (Connect.nameOnWire_isText hname) hcid hwt hun hb _
      hsmall [] {}
    rw [List.append_nil] at hbody
    simp only [Packet.readBody, Packet.empty, Packet.kind, frameHeader]
    refine (Filling.focus_ok (fun _ => {}) connect (connect {}) hbody).trans ?_
    simp [onWire]
  case publish p =>
    simp only [textFields, List.mem_cons, List.not_mem_nil, or_false, forall_eq] at htext
    have hbody := Publish.readBody_body p hv htext hb _ hsmall [] {}
    rw [List.append_nil] at hbody
    simp only [Packet.readBody, Packet.empty, Packet.kind, frameHeader]
    refine (Filling.focus_ok (fun _ => {}) publish (publish {}) hbody).trans ?_
    simp [onWire]
  case subscribe p =>
    simp only [textFields, List.mem_map, forall_exists_index, and_imp,
      forall_apply_eq_imp_iff₂] at htext
    have hbody := Subscribe.readBody_body p hv htext hb _ hsmall [] {}
    rw [List.append_nil] at hbody
    exact Filling.focus_ok (fun _ => {}) subscribe (subscribe {}) hbody
  case suback p =>
    have hbody := Suback.readBody_body p hv hb _ hsmall [] {}
    rw [List.append_nil] at hbody
    exact Filling.focus_ok (fun _ => {}) suback (suback {}) hbody
  case unsubscribe p =>
    have hbody := Unsubscribe.readBody_body p hv htext hb _ hsmall [] {}
    rw [List.append_nil] at hbody
    exact Filling.focus_ok (fun _ => {}) unsubscribe (unsubscribe {}) hbody
  all_goals simp [PacketKind.bodied, kind] at hq

/-! ## Round trip -/

/-- Every packet written without a fault in fewer than `2 ^ 32` bytes, with text fields that
are text, is read back from its bytes, whatever follows them, as the wire carries it, using
exactly its bytes. -/
theorem Packet.decode_encoded (c : Codec) (q : Packet) (hfail : q.encode.failure = none)
    (htext : ∀ t ∈ q.textFields, t.IsText) (hsize : q.encode.bytes.length < 4294967296)
    (s : Bytes) :
    c.decode (q.encode.bytes ++ s) = .ok (q.onWire, q.encode.bytes.length) := by
  by_cases hq : q.kind ∈ PacketKind.bodied
  · exact Codec.decode_bodied c hq hfail hsize
      (fun _ hv hb hsmall => Packet.readBody_written hq htext hv hb hsmall) s
  -- the other kinds are written as fixed bytes
  cases q
  case connack p =>
    have hv : (connack p).validate = .ok () := by
      cases hv : (connack p).validate
      · unfold encode at hfail
        simp [hv, Emission.fail] at hfail
      · rfl
    have hbody := Connack.readBody_body p [] {}
    rw [List.append_nil] at hbody
    have hread : Packet.readBody ⟨2, 0, 2⟩ (Packet.empty .connack)
        ([if p.sessionPresent then 1 else 0, p.returnCode], Packet.empty .connack) =
        .ok () ([], connack p) := by
      simp only [Packet.readBody, Packet.empty]
      exact Filling.focus_ok _ _ _ hbody
    unfold encode
    simp only [hv, Emission.ok]
    exact Codec.decode_frame c (h := ⟨2, 0, 2⟩) (by decide) (by decide) rfl (by decide) rfl hread s
  case puback i | pubrec i | pubrel i | pubcomp i | unsuback i =>
    refine Codec.decode_ackFrame c _ i hfail ?_ s
    rw [← List.append_nil (Field.u16 i)]
    simp only [Packet.readBody, Packet.empty, Packet.onWire]
    exact Filling.focus_ok _ _ _ (readAck_u16 _ i [] 0)
  case pingreq | pingresp | disconnect =>
    refine Codec.decode_emptyFrame c _ ?_ s
    simp only [Packet.readBody, Packet.empty, Packet.onWire]
    exact readEmpty_empty _ [] _
  all_goals simp [PacketKind.bodied, kind] at hq

/-- What a codec writes is read back, whatever follows it, as the wire carries the packet the
codec completes, using exactly the bytes written; and those bytes are a header whose remaining
length is the number of body bytes behind it. This holds for every packet whose text fields,
the protocol name written among them, are text, and whose bytes are fewer than `2 ^ 32`. -/
theorem Codec.decode_encode (c : Codec) (cap : Nat) (p : Packet) {b : Bytes}
    (henc : c.encode cap (some p) = .ok b) (htext : ∀ t ∈ (c.complete p).textFields, t.IsText)
    (hsize : b.length < 4294967296) (s : Bytes) :
    c.decode (b ++ s) = .ok ((c.complete p).onWire, b.length) ∧
      ∃ (h : FixedHeader) (body : Bytes),
        b = h.firstByte :: Field.lengthGroups h.remainingLength ++ body ∧
        h.remainingLength = body.length := by
  obtain ⟨hfail, rfl⟩ := Codec.encode_eq_ok henc
  exact ⟨Packet.decode_encoded c _ hfail htext hsize s, Packet.encode_frame _ hfail hsize⟩

/-- A CONNECT packet with a client identifier, written by the default codec, is read back with
the protocol name and level the codec writes. -/
theorem Codec.decode_encode_defaultConnect :
    ({} : Codec).encode 1024 (some (.connect { clientId := [0x63], cleanSession := true })) =
        .ok [0x10, 13, 0, 4, 0x4D, 0x51, 0x54, 0x54, 4, 2, 0, 0, 0, 1, 0x63] ∧
      (∀ t ∈ (({} : Codec).complete (.connect { clientId := [0x63], cleanSession := true })).textFields,
        t.IsText) ∧
      [0x10, 13, 0, 4, 0x4D, 0x51, 0x54, 0x54, 4, 2, 0, 0, 0, 1, 0x63].length < 4294967296 ∧
      (({} : Codec).decode ([0x10, 13, 0, 4, 0x4D, 0x51, 0x54, 0x54, 4, 2, 0, 0, 0, 1, 0x63] ++ [0xC0, 0]) =
          .ok ((({} : Codec).complete (.connect { clientId := [0x63], cleanSession := true })).onWire,
            15) ∧
        ∃ (h : FixedHeader) (body : Bytes),
          [0x10, 13, 0, 4, 0x4D, 0x51, 0x54, 0x54, 4, 2, 0, 0, 0, 1, 0x63] =
            h.firstByte :: Field.lengthGroups h.remainingLength ++ body ∧
          h.remainingLength = body.length) := by
  have henc : ({} : Codec).encode 1024 (some (.connect { clientId := [0x63], cleanSession := true })) =
      .ok [0x10, 13, 0, 4, 0x4D, 0x51, 0x54, 0x54, 4, 2, 0, 0, 0, 1, 0x63] := by decide +kernel
  have htext : ∀ t ∈ (({} : Codec).complete (.connect { clientId := [0x63], cleanSession := true })).textFields,
      t.IsText := by decide +kernel
  exact ⟨henc, htext, by decide, Codec.decode_encode {} 1024 _ henc htext (by decide) [0xC0, 0]⟩

/-- A codec whose protocol name is not text writes a CONNECT packet that leaves the name to the
codec, and cannot read it back, though the packet's own text fields are all text. -/
theorem Codec.decode_encode_unreadableName :
    (∀ t ∈ (Packet.connect { cleanSession := true }).textFields, t.IsText) ∧
      ({ protocolName := [0xFF] } : Codec).encode 1024
        (some (.connect { cleanSession := true })) = .ok [0x10, 9, 0, 1, 0xFF, 4, 2, 0, 0, 0, 0] ∧
      ({ protocolName := [0xFF] } : Codec).decode [0x10, 9, 0, 1, 0xFF, 4, 2, 0, 0, 0, 0] =
        .error (.of .invalidUtf8, 5) := by
  decide +kernel

end Mqtt
