import Mqtt.Proofs.Wire
import Mqtt.Packet.Encode
import Mqtt.Packet.Decode
/-! # Reading back written bodies

For each kind of packet, the body reader applied to the bytes the body writer produced, followed
by anything, reads exactly those bytes and fills the packet back in. What the reader cannot
recover is what the writer does not write: the defaults of a CONNECT packet's protocol name and
level, the will of a CONNECT packet without a will flag, and the identifier of a PUBLISH packet
of QoS 0. Fields the body does not carry keep the value of the packet read into.

The flag bytes are the delicate part: `Connect.flagsByte_bits` and `Publish.header_bits` take
them apart by evaluating every combination of flags once.
-/

namespace Mqtt

/-- A list of checks passes exactly when none of them finds its fault. -/
theorem firstFailure_eq_ok {cs : List Check} : firstFailure cs = .ok () ↔ ∀ c ∈ cs, c.1 = false := by
  induction cs with
  | nil => simp [firstFailure]
  | cons c rest ih =>
    obtain ⟨bad, f⟩ := c
    cases bad <;> simp [firstFailure, ih]

/-- A list mapped through a writer that writes each item's own encoding when the item allows it
is written item by item. -/
theorem Except.mapM_eq_ok {ε α β : Type} {f : α → Except ε β} {P : α → Prop} {e : α → β}
    (hf : ∀ a b, f a = .ok b ↔ P a ∧ b = e a) {l : List α} {fs : List β} :
    l.mapM f = .ok fs ↔ (∀ a ∈ l, P a) ∧ fs = l.map e := by
  induction l generalizing fs with
  | nil => simp [pure, Except.pure, eq_comm]
  | cons a l ih =>
    simp only [List.mapM_cons, Except.bind_eq_ok, Except.pure_eq_ok, hf, ih, List.mem_cons,
      forall_eq_or_imp, List.map_cons]
    constructor
    · rintro ⟨b, ⟨hp, rfl⟩, bs, ⟨hps, rfl⟩, rfl⟩
      exact ⟨⟨hp, hps⟩, rfl⟩
    · rintro ⟨⟨hp, hps⟩, rfl⟩
      exact ⟨_, ⟨hp, rfl⟩, _, ⟨hps, rfl⟩, rfl⟩

/-! ## CONNECT -/

namespace Connect

/-- The protocol name a CONNECT packet is written with. -/
def nameOnWire (p : Connect) : Bytes :=
  if p.protocolName.isEmpty then defaultProtocolName else p.protocolName

/-- The protocol level a CONNECT packet is written with. -/
def levelOnWire (p : Connect) : UInt8 :=
  if p.protocolLevel == 0 then defaultProtocolLevel else p.protocolLevel

/-- What a CONNECT packet that passes its checks promises about its flags. -/
theorem validate_flags {p : Connect} (hv : p.validate = .ok ()) :
    p.willQos.toNat ≤ 2 ∧ (p.willFlag = false → p.willQos = 0 ∧ p.willRetain = false) ∧
      (p.password.isEmpty = false → p.username.isEmpty = false) := by
  simp only [Connect.validate, firstFailure_eq_ok, List.mem_cons, List.not_mem_nil, or_false,
    forall_eq_or_imp, forall_eq] at hv
  obtain ⟨-, hq, -, hnowill, hpass⟩ := hv
  refine ⟨?_, ?_, ?_⟩
  · have := UInt8.lt_iff_toNat_lt.not.mp (by simpa using hq)
    simp at this
    omega
  · intro hw
    simp only [hw, Bool.not_false, Bool.true_and, Bool.or_eq_false_iff, bne_eq_false_iff_eq] at hnowill
    exact ⟨hnowill.2, hnowill.1⟩
  · intro hp
    simpa [hp] using hpass

/-- The flags byte of a CONNECT packet, taken apart bit by bit, gives back its flags. -/
theorem flagsByte_bits (p : Connect) (hq : p.willQos.toNat ≤ 2) :
    p.flagsByte &&& 0x01 = 0 ∧ (p.flagsByte &&& 0x02 != 0) = p.cleanSession ∧
      (p.flagsByte &&& 0x04 != 0) = p.willFlag ∧
      (p.flagsByte &&& 0x18) >>> 3 = (if p.willFlag then p.willQos else 0) ∧
      (p.flagsByte &&& 0x20 != 0) = (p.willFlag && p.willRetain) ∧
      (p.flagsByte &&& 0x40 != 0) = !p.password.isEmpty ∧
      (p.flagsByte &&& 0x80 != 0) = !p.username.isEmpty := by
  -- the byte depends on five booleans and a QoS of at most 2: 96 cases, evaluated once
  have table : ∀ n : Nat, n ≤ 2 → ∀ c w r pa u : Bool,
      (Connect.mk [] 0 [] c 0 (if u then [] else [0]) (if pa then [] else [0]) w r n.toUInt8 [] []).flagsByte
        |> fun (f : UInt8) => f &&& 0x01 = 0 ∧ (f &&& 0x02 != 0) = c ∧ (f &&& 0x04 != 0) = w ∧
          (f &&& 0x18) >>> 3 = (if w then n.toUInt8 else 0) ∧ (f &&& 0x20 != 0) = (w && r) ∧
          (f &&& 0x40 != 0) = !pa ∧ (f &&& 0x80 != 0) = !u := by
    decide +kernel
  have bits := table p.willQos.toNat hq p.cleanSession p.willFlag p.willRetain p.password.isEmpty
    p.username.isEmpty
  simp only [Nat.toUInt8_eq, UInt8.ofNat_toNat] at bits
  have hsame : (Connect.mk [] 0 [] p.cleanSession 0 (if p.username.isEmpty then [] else [0])
      (if p.password.isEmpty then [] else [0]) p.willFlag p.willRetain p.willQos [] []).flagsByte =
      p.flagsByte := by
    simp only [flagsByte]
    cases p.password.isEmpty <;> cases p.username.isEmpty <;> rfl
  rwa [hsame] at bits

/-- The flags byte a CONNECT packet that passes its checks is written with is accepted, and
sets the packet's session and will flags. -/
theorem applyFlags_flagsByte (p : Connect) (hq : p.willQos.toNat ≤ 2)
    (hwill : p.willFlag = false → p.willQos = 0 ∧ p.willRetain = false)
    (hpass : p.password.isEmpty = false → p.username.isEmpty = false) (s : Bytes) (q : Connect) :
    applyFlags p.flagsByte (s, q) =
      .ok () (s, { q with cleanSession := p.cleanSession, willFlag := p.willFlag,
                          willQos := p.willQos, willRetain := p.willRetain }) := by
  obtain ⟨h1, h2, h4, h18, h20, h40, h80⟩ := flagsByte_bits p hq
  have hq2 : ¬ p.willQos > 2 := by
    intro h
    have := UInt8.lt_iff_toNat_lt.mp h
    simp at this
    omega
  have hcred : (p.flagsByte &&& 0x40 != 0 && p.flagsByte &&& 0x80 == 0) = false := by
    have h80' : (p.flagsByte &&& 0x80 == 0) = p.username.isEmpty := by
      rw [← Bool.not_not (p.flagsByte &&& 0x80 == 0)]
      exact (congrArg (!·) h80).trans (Bool.not_not _)
    rw [h40, h80']
    cases hpe : p.password.isEmpty
    · simp [hpass hpe]
    · rfl
  have hq2' : ¬ (if p.willFlag then p.willQos else 0) > 2 := by
    cases p.willFlag
    · simp only [Bool.false_eq_true, if_false]
      decide
    · exact hq2
  have hwill' : (!p.willFlag &&
      ((if p.willFlag then p.willQos else 0) != 0 || (p.willFlag && p.willRetain))) = false := by
    cases hw : p.willFlag
    · obtain ⟨hq0, hr⟩ := hwill hw
      simp
    · rfl
  simp only [applyFlags, bind, EStateM.bind, h1, h2, h4, h18, h20, hcred, hq2', hwill',
    bne_self_eq_false, Bool.false_eq_true, if_false, Filling.update, pure, EStateM.pure]
  cases hw : p.willFlag
  · obtain ⟨hq0, hr⟩ := hwill hw
    simp [hq0, hr]
  · simp

/-- A CONNECT body is read back from its bytes, whatever follows them. The packet read into
keeps the will fields when the packet has no will, and the user name or password it lacks. -/
theorem readBody_body (p : Connect) (hv : p.validate = .ok ()) (hname : p.nameOnWire.IsText)
    (hcid : p.clientId.IsText) (hwt : p.willTopic.IsText) (hun : p.username.IsText) {b : Bytes}
    (hb : p.body = .ok b) (n : Nat) (hn : n = b.length) (rest : Bytes) (start : Connect) :
    readBody ⟨1, 0, n⟩ (b ++ rest, start) =
      .ok () (rest, { start with
        protocolName := p.nameOnWire, protocolLevel := p.levelOnWire, cleanSession := p.cleanSession,
        keepAlive := p.keepAlive, clientId := p.clientId, willFlag := p.willFlag,
        willQos := p.willQos, willRetain := p.willRetain,
        willTopic := if p.willFlag then p.willTopic else start.willTopic,
        willMessage := if p.willFlag then p.willMessage else start.willMessage,
        username := if p.username.isEmpty then start.username else p.username,
        password := if p.password.isEmpty then start.password else p.password }) := by
  obtain ⟨hq, hwill, hpass⟩ := validate_flags hv
  obtain ⟨h1, h2, h4, h18, h20, h40, h80⟩ := flagsByte_bits p hq
  have hkind : ((1 : UInt8) == PacketKind.connect.code) = true := rfl
  have hflags : FixedHeader.checkFlags ⟨1, 0, n⟩ = .ok () := rfl
  have hnamew : (if p.protocolName.isEmpty = true then defaultProtocolName
      else p.protocolName) = p.nameOnWire := rfl
  have hlevel : (if (p.protocolLevel == 0) = true then defaultProtocolLevel
      else p.protocolLevel) = p.levelOnWire := rfl
  have happly := applyFlags_flagsByte p hq hwill hpass
  -- which optional fields are written, and read, is decided by the three flags
  cases hw : p.willFlag <;> cases hu : p.username.isEmpty <;> cases hpe : p.password.isEmpty <;>
  · simp only [body, hnamew, hlevel, hw, hu, hpe, Except.bind_eq_ok, Except.pure_eq_ok,
      Field.text_eq_ok, Field.binary_eq_ok, if_true, Bool.false_eq_true, if_false, and_assoc,
      exists_and_left, exists_eq_left'] at hb
    casesm* _ ∧ _
    subst b
    simp only [hw, hu, hpe] at h4 h18 h20 h40 h80
    simp only [Field.u16, List.append_assoc, List.cons_append, List.nil_append, List.append_nil]
    -- each field reader meets the field its writer wrote; the lengths come from the writer
    simp (disch := assumption) only [readBody, expectKind, expectFlags, hkind, hflags,
      if_true, bind, EStateM.bind, pure, EStateM.pure, Filling.unread, Filling.read,
      Filling.update, Filling.field, Reading.text_framed, Reading.binary_framed,
      Reading.bytes_two, Reading.u16_ofUInt16, List.drop_succ_cons, List.drop_zero,
      List.headD_cons, happly, h4, h80, h40, Bool.not_false, Bool.not_true, Bool.false_eq_true,
      if_false]
    -- the final check: the fields used exactly the remaining length
    simp only [EStateM.ite_run, hn, List.length_append, List.length_cons, Bytes.length_framed,
      Bytes.length_ofUInt16, bne_iff_ne, ne_eq, List.length_nil, Field.u16]
    rw [if_neg (by omega)]
    simp [EStateM.pure, hw]

end Connect

/-! ## PUBLISH -/

namespace Publish

/-- A PUBLISH packet that passes its checks has a QoS of at most 2. -/
theorem validate_qos {p : Publish} (hv : p.validate = .ok ()) : p.qos.toNat ≤ 2 := by
  simp only [validate, firstFailure_eq_ok, List.mem_cons, List.not_mem_nil, or_false,
    forall_eq_or_imp, forall_eq] at hv
  have := UInt8.lt_iff_toNat_lt.not.mp (by simpa using hv.2.1)
  simp at this
  omega

/-- The fixed header of a PUBLISH packet, taken apart, gives back its flags and the body length
as the header holds it. -/
theorem header_bits (p : Publish) (n : Nat) (hq : p.qos.toNat ≤ 2) :
    (p.header n).code = 3 ∧ (p.header n).dup = p.dup ∧ (p.header n).qos = p.qos ∧
      (p.header n).retain = p.retain ∧ (p.header n).flags.toNat < 16 ∧
      (p.header n).remainingLength = FixedHeader.length32 n := by
  -- the flags depend on two booleans and a QoS of at most 2: 12 cases, evaluated once
  have table : ∀ q : Nat, q ≤ 2 → ∀ d r : Bool,
      ((((FixedHeader.mk 3 0 0).setDup d).setQos q.toUInt8).setRetain r) |> fun h =>
        h.dup = d ∧ h.qos = q.toUInt8 ∧ h.retain = r ∧ h.flags.toNat < 16 := by
    decide
  have bits := table p.qos.toNat hq p.dup p.retain
  simp only [Nat.toUInt8_eq, UInt8.ofNat_toNat] at bits
  simpa [header, FixedHeader.setDup, FixedHeader.setQos, FixedHeader.setRetain,
    FixedHeader.dup, FixedHeader.qos, FixedHeader.retain] using bits

/-- A PUBLISH body is the topic, the identifier above QoS 0, and the payload. -/
theorem body_eq_ok {p : Publish} {b : Bytes} :
    p.body = .ok b ↔ p.topic.length ≤ maxFieldLength ∧
      b = p.topic.framed ++ (if p.qos > 0 then Field.u16 p.packetId else []) ++ p.payload := by
  simp only [body, Except.bind_eq_ok, Field.text_eq_ok, Except.pure_eq_ok]
  constructor
  · rintro ⟨t, ⟨hlen, rfl⟩, rfl⟩
    exact ⟨hlen, rfl⟩
  · rintro ⟨hlen, rfl⟩
    exact ⟨_, ⟨hlen, rfl⟩, rfl⟩

/-- A payload whose bytes have all arrived is read whole. -/
theorem readPayload_append {b : Bytes} {k : Nat} (hk : k = b.length) (rest : Bytes) (q : Publish) :
    readPayload k (b ++ rest, q) = .ok () (rest, { q with payload := b }) := by
  subst hk
  simp [readPayload]

/-- A PUBLISH body is read back from its bytes under the header it is written with, whatever
follows them. The packet read into keeps its identifier at QoS 0. -/
theorem readBody_body (p : Publish) (hv : p.validate = .ok ()) (ht : p.topic.IsText) {b : Bytes}
    (hb : p.body = .ok b) (n : Nat) (hn : FixedHeader.length32 n = b.length) (rest : Bytes)
    (start : Publish) :
    readBody (p.header n) (b ++ rest, start) =
      .ok () (rest, { start with
        dup := p.dup, qos := p.qos, retain := p.retain, topic := p.topic,
        packetId := if p.qos > 0 then p.packetId else start.packetId, payload := p.payload }) := by
  have hq := validate_qos hv
  obtain ⟨hlen, rfl⟩ := (body_eq_ok).mp hb
  obtain ⟨hcode, hdup, hqos, hret, -, hrl⟩ := header_bits p n hq
  have hkind : ((3 : UInt8) == PacketKind.publish.code) = true := rfl
  have hflags : (p.header n).checkFlags = .ok () := by
    have hq2 : ¬ p.qos > 2 := fun h2 => by
      have := UInt8.lt_iff_toNat_lt.mp h2
      simp at this
      omega
    simp [FixedHeader.checkFlags, FixedHeader.kind?, hcode, hqos, hq2]
    rfl
  generalize p.header n = h at *
  rw [hn] at hrl
  -- the identifier is there above QoS 0; the payload is whatever the remaining length leaves
  by_cases hq0 : p.qos > 0
  all_goals
    simp only [hq0, if_true, if_false, Field.u16, List.append_assoc, List.nil_append] at hrl ⊢
    simp (disch := assumption) only [readBody, expectKind, expectFlags, hcode, hkind, hflags,
      hqos, hdup, hret, hq0, if_true, bind, EStateM.bind, pure, EStateM.pure, Filling.update,
      Filling.unread, Filling.field, Reading.text_framed, Reading.u16_ofUInt16, reduceIte]
    simp only [EStateM.ite_run, hrl, List.length_append, Bytes.length_framed, Bytes.length_ofUInt16]
    rw [if_neg (by omega)]
    cases hpay : p.payload with
    | nil =>
      simp only [EStateM.bind, Filling.update, List.length_nil, Nat.add_zero]
      rw [if_neg (by omega)]
      rfl
    | cons x xs =>
      simp only [EStateM.bind, Filling.update, List.length_cons]
      rw [if_pos (by omega), readPayload_append (by simp only [List.length_cons]; omega)]

end Publish

/-! ## SUBSCRIBE -/

/-- A requested subscription as written: its filter and the QoS byte. -/
def Subscription.onWire (s : Subscription) : Bytes := s.filter.framed ++ [s.qos]

/-- Every requested subscription takes at least three bytes. -/
@[simp] theorem Subscription.length_onWire (s : Subscription) :
    s.onWire.length = 3 + s.filter.length := by
  simp [onWire]
  omega

namespace Subscribe

/-- A SUBSCRIBE body has fewer subscriptions than bytes. -/
theorem length_le_entries (es : List Subscription) :
    es.length ≤ (es.map Subscription.onWire).flatten.length := by
  induction es with
  | nil => simp
  | cons s es ih =>
    simp only [List.map_cons, List.flatten_cons, List.length_append, Subscription.length_onWire,
      List.length_cons]
    omega

/-- The subscription reader reads back written subscriptions as long as it has fuel for each and
the remaining length ends where they end. -/
theorem readEntries_entries (es : List Subscription)
    (hes : ∀ s ∈ es, s.filter.length ≤ maxFieldLength ∧ s.filter.IsText ∧ s.qos.toNat ≤ 2)
    (rl start fuel used : Nat) (hfuel : es.length ≤ fuel) (rest : Bytes)
    (hstart : start = used + ((es.map Subscription.onWire).flatten ++ rest).length)
    (hrl : rl = used + (es.map Subscription.onWire).flatten.length) (q : Subscribe) :
    readEntries rl start fuel ((es.map Subscription.onWire).flatten ++ rest, q) =
      .ok () (rest, { q with subscriptions := q.subscriptions ++ es }) := by
  induction es generalizing fuel used q with
  | nil =>
    cases fuel with
    | zero => simp [readEntries, pure, EStateM.pure]
    | succ fuel =>
      simp only [List.map_nil, List.flatten_nil, List.nil_append, List.length_nil,
        Nat.add_zero] at hstart hrl
      simp [readEntries, bind, EStateM.bind, Filling.unread, pure, EStateM.pure, hstart, hrl]
  | cons s es ih =>
    obtain ⟨hlen, htext, hq⟩ := hes s (List.mem_cons_self ..)
    obtain ⟨fuel, rfl⟩ : ∃ f, fuel = f + 1 := ⟨fuel - 1, by simp at hfuel; omega⟩
    have hq2 : ¬ s.qos > 2 := fun h2 => by
      have := UInt8.lt_iff_toNat_lt.mp h2
      simp at this
      omega
    simp only [List.map_cons, List.flatten_cons, List.append_assoc, Subscription.onWire,
      List.cons_append, List.nil_append] at hstart hrl ⊢
    have hrec := ih (fun t ht => hes t (List.mem_cons_of_mem _ ht)) fuel (used + (3 + s.filter.length))
      (by simp at hfuel; omega) (by simp [hstart]; omega) (by simp [hrl]; omega)
      { q with subscriptions := q.subscriptions ++ [s] }
    simp only [readEntries, bind, EStateM.bind, Filling.unread]
    rw [EStateM.ite_run, if_pos (by
      subst hstart hrl
      simp only [List.length_append, List.length_cons, Bytes.length_framed]
      omega)]
    simp only [EStateM.bind, Filling.read, Filling.update, Reading.text_framed hlen htext,
      Reading.byte_cons, hq2, if_false, hrec]
    simp

/-- What a SUBSCRIBE packet that passes its checks promises about its subscriptions. -/
theorem validate_entries {p : Subscribe} (hv : (Packet.subscribe p).validate = .ok ()) :
    p.subscriptions ≠ [] ∧ ∀ s ∈ p.subscriptions, s.qos.toNat ≤ 2 := by
  simp only [Packet.validate, firstFailure_eq_ok, List.mem_append, List.mem_cons, List.not_mem_nil,
    or_false, List.mem_flatMap] at hv
  refine ⟨fun h => by simpa [h] using hv _ (.inl (.inr rfl)), fun s hs => ?_⟩
  have hq := hv _ (.inr ⟨s, hs, .inr rfl⟩)
  have := UInt8.lt_iff_toNat_lt.not.mp (by simpa using hq)
  simp at this
  omega

/-- The subscriptions of a SUBSCRIBE body are written one after the other. -/
theorem entries_eq_ok {l : List Subscription} {fs : List Bytes} :
    (l.mapM fun s => do
        let f ← Field.text s.filter
        pure (f ++ [s.qos])) = .ok fs ↔
      (∀ s ∈ l, s.filter.length ≤ maxFieldLength) ∧ fs = l.map Subscription.onWire := by
  refine Except.mapM_eq_ok fun s b => ?_
  simp only [Except.bind_eq_ok, Field.text_eq_ok, Except.pure_eq_ok, Subscription.onWire]
  constructor
  · rintro ⟨f, ⟨hlen, rfl⟩, rfl⟩
    exact ⟨hlen, rfl⟩
  · rintro ⟨hlen, rfl⟩
    exact ⟨_, ⟨hlen, rfl⟩, rfl⟩

/-- A SUBSCRIBE body is read back from its bytes, whatever follows them. -/
theorem readBody_body (p : Subscribe) (hv : (Packet.subscribe p).validate = .ok ())
    (htext : ∀ s ∈ p.subscriptions, s.filter.IsText) {b : Bytes}
    (hb : (Packet.subscribe p).body = .ok b) (n : Nat) (hn : n = b.length) (rest : Bytes)
    (start : Subscribe) :
    readBody ⟨8, 2, n⟩ (b ++ rest, start) = .ok () (rest, p) := by
  obtain ⟨hne, hqos⟩ := validate_entries hv
  simp only [Packet.body, Except.bind_eq_ok, entries_eq_ok, Except.pure_eq_ok] at hb
  obtain ⟨_, ⟨hlens, rfl⟩, rfl⟩ := hb
  have hkind : ((8 : UInt8) == PacketKind.subscribe.code) = true := rfl
  have hflags : FixedHeader.checkFlags ⟨8, 2, n⟩ = .ok () := rfl
  simp only [Field.u16, List.append_assoc] at hn ⊢
  -- the entries are read while the body has bytes left: one per subscription
  have hentries := readEntries_entries p.subscriptions
    (fun s hs => ⟨hlens s hs, htext s hs, hqos s hs⟩) n
    (Bytes.ofUInt16 p.packetId ++ ((p.subscriptions.map Subscription.onWire).flatten ++ rest)).length
    ((Bytes.ofUInt16 p.packetId ++ ((p.subscriptions.map Subscription.onWire).flatten ++ rest)).length + 1)
    2 (by have := length_le_entries p.subscriptions; simp only [List.length_append]; omega) rest
    (by simp only [List.length_append, Bytes.length_ofUInt16]) (by simp [hn])
    { packetId := p.packetId }
  simp only [readBody, expectKind, expectFlags, hkind, hflags, if_true, bind, EStateM.bind, pure,
    EStateM.pure, Filling.unread, Filling.read, Filling.update, Filling.current,
    Reading.u16_ofUInt16, hentries]
  have hfull : p.subscriptions.isEmpty = false := by simpa using hne
  simp [hfull, EStateM.pure]

end Subscribe

/-! ## UNSUBSCRIBE -/

namespace Unsubscribe

/-- An UNSUBSCRIBE body has fewer filters than bytes. -/
theorem length_le_entries (fs : List Bytes) : fs.length ≤ (fs.map Bytes.framed).flatten.length := by
  induction fs with
  | nil => simp
  | cons f fs ih =>
    simp only [List.map_cons, List.flatten_cons, List.length_append, Bytes.length_framed,
      List.length_cons]
    omega

/-- The filter reader reads back written filters as long as it has fuel for each and the
remaining length ends where they end. -/
theorem readEntries_entries (fs : List Bytes)
    (hfs : ∀ f ∈ fs, f.length ≤ maxFieldLength ∧ f.IsText)
    (rl start fuel used : Nat) (hfuel : fs.length ≤ fuel) (rest : Bytes)
    (hstart : start = used + ((fs.map Bytes.framed).flatten ++ rest).length)
    (hrl : rl = used + (fs.map Bytes.framed).flatten.length) (q : Unsubscribe) :
    readEntries rl start fuel ((fs.map Bytes.framed).flatten ++ rest, q) =
      .ok () (rest, { q with topicFilters := q.topicFilters ++ fs }) := by
  induction fs generalizing fuel used q with
  | nil =>
    cases fuel with
    | zero => simp [readEntries, pure, EStateM.pure]
    | succ fuel =>
      simp only [List.map_nil, List.flatten_nil, List.nil_append, List.length_nil,
        Nat.add_zero] at hstart hrl
      simp [readEntries, bind, EStateM.bind, Filling.unread, pure, EStateM.pure, hstart, hrl]
  | cons f fs ih =>
    obtain ⟨hlen, htext⟩ := hfs f (List.mem_cons_self ..)
    obtain ⟨fuel, rfl⟩ : ∃ k, fuel = k + 1 := ⟨fuel - 1, by simp at hfuel; omega⟩
    simp only [List.map_cons, List.flatten_cons, List.append_assoc] at hstart hrl ⊢
    have hrec := ih (fun g hg => hfs g (List.mem_cons_of_mem _ hg)) fuel (used + (2 + f.length))
      (by simp at hfuel; omega) (by simp [hstart]; omega) (by simp [hrl]; omega)
      { q with topicFilters := q.topicFilters ++ [f] }
    simp only [readEntries, bind, EStateM.bind, Filling.unread]
    rw [EStateM.ite_run, if_pos (by
      subst hstart hrl
      simp only [List.length_append, Bytes.length_framed]
      omega)]
    simp only [EStateM.bind, Filling.read, Filling.update, Reading.text_framed hlen htext, hrec]
    simp

/-- What an UNSUBSCRIBE packet that passes its checks promises about its filters. -/
theorem validate_entries {p : Unsubscribe} (hv : (Packet.unsubscribe p).validate = .ok ()) :
    p.topicFilters ≠ [] := by
  simp only [Packet.validate, firstFailure_eq_ok, List.mem_append, List.mem_cons, List.not_mem_nil,
    or_false, List.mem_map] at hv
  intro h
  simpa [h] using hv _ (.inl (.inr rfl))

/-- An UNSUBSCRIBE body is read back from its bytes, whatever follows them. -/
theorem readBody_body (p : Unsubscribe) (hv : (Packet.unsubscribe p).validate = .ok ())
    (htext : ∀ f ∈ p.topicFilters, f.IsText) {b : Bytes}
    (hb : (Packet.unsubscribe p).body = .ok b) (n : Nat) (hn : n = b.length) (rest : Bytes)
    (start : Unsubscribe) :
    readBody ⟨10, 2, n⟩ (b ++ rest, start) = .ok () (rest, p) := by
  have hne := validate_entries hv
  have hwritten : ∀ {fs : List Bytes}, p.topicFilters.mapM Field.text = .ok fs ↔
      (∀ f ∈ p.topicFilters, f.length ≤ maxFieldLength) ∧ fs = p.topicFilters.map Bytes.framed :=
    Except.mapM_eq_ok fun f e => by rw [Field.text_eq_ok, eq_comm]
  simp only [Packet.body, Except.bind_eq_ok, hwritten, Except.pure_eq_ok] at hb
  obtain ⟨_, ⟨hlens, rfl⟩, rfl⟩ := hb
  have hkind : ((10 : UInt8) == PacketKind.unsubscribe.code) = true := rfl
  have hflags : FixedHeader.checkFlags ⟨10, 2, n⟩ = .ok () := rfl
  simp only [Field.u16, List.append_assoc] at hn ⊢
  -- the filters are read while the body has bytes left: one per filter
  have hentries := readEntries_entries p.topicFilters
    (fun f hf => ⟨hlens f hf, htext f hf⟩) n
    (Bytes.ofUInt16 p.packetId ++ ((p.topicFilters.map Bytes.framed).flatten ++ rest)).length
    ((Bytes.ofUInt16 p.packetId ++ ((p.topicFilters.map Bytes.framed).flatten ++ rest)).length + 1)
    2 (by have := length_le_entries p.topicFilters; simp only [List.length_append]; omega) rest
    (by simp only [List.length_append, Bytes.length_ofUInt16]) (by simp [hn])
    { packetId := p.packetId }
  simp only [readBody, expectKind, expectFlags, hkind, hflags, if_true, bind, EStateM.bind, pure,
    EStateM.pure, Filling.unread, Filling.read, Filling.update, Filling.current,
    Reading.u16_ofUInt16, hentries]
  have hfull : p.topicFilters.isEmpty = false := by simpa using hne
  simp [hfull, EStateM.pure]

end Unsubscribe

/-! ## SUBACK -/

namespace Suback

/-- What a SUBACK packet that passes its checks promises about its return codes. -/
theorem validate_codes {p : Suback} (hv : (Packet.suback p).validate = .ok ()) :
    p.returnCodes ≠ [] ∧ ∀ c ∈ p.returnCodes, subackCodeValid c = true := by
  simp only [Packet.validate, firstFailure_eq_ok, List.mem_append, List.mem_cons, List.not_mem_nil,
    or_false, List.mem_map] at hv
  refine ⟨fun h => by simpa [h] using hv _ (.inl (.inr rfl)), fun c hc => ?_⟩
  simpa using hv _ (.inr ⟨c, hc, rfl⟩)

/-- A SUBACK body is read back from its bytes, whatever follows them. -/
theorem readBody_body (p : Suback) (hv : (Packet.suback p).validate = .ok ()) {b : Bytes}
    (hb : (Packet.suback p).body = .ok b) (n : Nat) (hn : n = b.length) (rest : Bytes)
    (start : Suback) :
    readBody ⟨9, 0, n⟩ (b ++ rest, start) = .ok () (rest, p) := by
  obtain ⟨hne, hvalid⟩ := validate_codes hv
  simp only [Packet.body, Except.pure_eq_ok] at hb
  subst hb
  have hkind : ((9 : UInt8) == PacketKind.suback.code) = true := rfl
  have hflags : FixedHeader.checkFlags ⟨9, 0, n⟩ = .ok () := rfl
  have hcodes : 0 < p.returnCodes.length := List.length_pos_iff.mpr hne
  have hgood : p.returnCodes.takeWhile subackCodeValid = p.returnCodes := by
    simpa using @List.takeWhile_append_of_pos _ subackCodeValid p.returnCodes [] hvalid
  simp only [Field.u16, List.append_assoc, List.length_append, Bytes.length_ofUInt16] at hn ⊢
  simp only [readBody, expectKind, expectFlags, hkind, hflags, if_true, bind, EStateM.bind, pure,
    EStateM.pure, EStateM.ite_run, Filling.read, Filling.update, Reading.u16_ofUInt16]
  rw [if_neg (by omega), show n - 2 = p.returnCodes.length by omega, Reading.bytes_append]
  simp [hgood, padTo]

end Suback

/-! ## Bodies of a fixed size -/

/-- The two bytes of a CONNACK packet are read back. -/
theorem Connack.readBody_body (c : Connack) (rest : Bytes) (start : Connack) :
    Connack.readBody ⟨2, 0, 2⟩ ([if c.sessionPresent then 1 else 0, c.returnCode] ++ rest, start) =
      .ok () (rest, c) := by
  obtain ⟨sp, rc⟩ := c
  have hkind : ((2 : UInt8) == PacketKind.connack.code) = true := rfl
  have hflags : FixedHeader.checkFlags ⟨2, 0, 2⟩ = .ok () := rfl
  -- the session-present byte is 0 or 1: its other bits are clear and its low bit is the flag
  have hbyte : ∀ b : Bool, ((if b then 1 else 0 : UInt8) &&& 0xFE) = 0 ∧
      (((if b then 1 else 0 : UInt8) &&& 0x01) != 0) = b := by decide
  simp only [Connack.readBody, expectKind, expectFlags, hkind, hflags, if_true, bind, EStateM.bind,
    pure, EStateM.pure, Filling.read, Filling.update, List.cons_append, List.nil_append,
    Reading.bytes_two, bne_self_eq_false, Bool.false_eq_true, if_false, List.headD_cons,
    List.drop_succ_cons, List.drop_zero, (hbyte sp).1, (hbyte sp).2, EStateM.ite_run]

/-- The identifier of an acknowledgment is read back under the header it is written with. -/
theorem readAck_u16 (k : PacketKind) (i : UInt16) (rest : Bytes) (start : UInt16) :
    readAck k ⟨k.code, k.reservedFlags, 2⟩ (Field.u16 i ++ rest, start) = .ok () (rest, i) := by
  simp [readAck, expectKind, bind, EStateM.bind, pure, EStateM.pure, Filling.field, Filling.update,
    Field.u16]

/-- A packet without a body reads nothing and changes nothing. -/
theorem readEmpty_empty (k : PacketKind) (rest : Bytes) {P : Type} (start : P) :
    readEmpty k ⟨k.code, 0, 0⟩ (rest, start) = .ok () (rest, start) := by
  simp [readEmpty, expectKind, bind, EStateM.bind, pure, EStateM.pure]

end Mqtt
