import Mqtt.Codec
/-! # Reading into a reused packet

`Codec.decodeInto` reads the first packet of a buffer into a packet it is given, and the body
reader writes each field it reads over the value the target held. This module compares a read
into a reused target with a read into a new packet (`Codec.decode`).

Two runs of one reader on one stream are compared through `Filling.Paired R S x`: run from
values related by `R`, `x` ends the same way on both (the same value and unread stream, or the
same failure with the same unread stream), and after a success leaves values related by `S`.
It is built up along the readers' `do` blocks, one rule per way of putting a reader together
and one per primitive, as `FailsOnly` is in `Proofs/Faults`. No body reader decides anything on
the value it fills before it has overwritten it, so every one is paired from any two values;
the relation at each step says which fields are read so far.

Main statement (`Codec.decodeInto_reused`): into a target of the kind that the first byte
names, `decodeInto` fails exactly when `decode` fails, with the same failure and bytes used,
and otherwise reads the packet that `decode` reads, with the same bytes used, except for the
fields the body leaves out, which keep the target's values (`Packet.keepOmitted`): the
identifier of a QoS 0 PUBLISH, the will of a CONNECT without a will flag, and the user name and
password of a CONNECT whose flags leave them out. A target that held a packet identifier keeps
it through a QoS 0 PUBLISH. Into a new packet of the kind, `decodeInto` is `decode`
(`Codec.decodeInto_empty`).
-/

namespace Mqtt

/-- The packet `p`, read from a body, with the fields that the body leaves out taken from `t`:
the identifier of a QoS 0 PUBLISH and the will of a CONNECT without a will flag. Whether a
CONNECT body carries a user name and a password is told by flags that `p` does not keep, so
`user` and `pass` say it. -/
def Packet.keepOmitted (t : Packet) (user pass : Bool) (p : Packet) : Packet :=
  match t, p with
  | .publish q, .publish p =>
    .publish { p with packetId := if p.qos > 0 then p.packetId else q.packetId }
  | .connect q, .connect p =>
    .connect { p with
      willTopic := if p.willFlag then p.willTopic else q.willTopic
      willMessage := if p.willFlag then p.willMessage else q.willMessage
      username := if user then p.username else q.username
      password := if pass then p.password else q.password }
  | _, p => p

namespace Filling

variable {P α β : Type}

/-- Two results of a reader on one stream agree: the same value and the same unread stream,
with the values filled related by `S`, or the same failure with the same unread stream. -/
def Agree (S : P → P → Prop) :
    EStateM.Result Failure (Bytes × P) α → EStateM.Result Failure (Bytes × P) α → Prop
  | .ok a (s, p), .ok a' (s', p') => a = a' ∧ s = s' ∧ S p p'
  | .error e (s, _), .error e' (s', _) => e = e' ∧ s = s'
  | _, _ => False

theorem Agree.refl (r : EStateM.Result Failure (Bytes × P) α) : Agree Eq r r := by
  rcases r with ⟨a, s, p⟩ | ⟨e, s, p⟩
  · exact ⟨rfl, rfl, rfl⟩
  · exact ⟨rfl, rfl⟩

theorem Agree.mono {S S' : P → P → Prop} (post : ∀ p p', S p p' → S' p p')
    {r r' : EStateM.Result Failure (Bytes × P) α} (agree : Agree S r r') : Agree S' r r' := by
  rcases r with ⟨a, s, p⟩ | ⟨e, s, p⟩ <;> rcases r' with ⟨a', s', p'⟩ | ⟨e', s', p'⟩
  · exact ⟨agree.1, agree.2.1, post _ _ agree.2.2⟩
  · exact agree.elim
  · exact agree.elim
  · exact agree

/-- `Paired R S x`: run on one stream from two values related by `R`, `x` ends the same way on
both, and after a success the values are related by `S`. -/
structure Paired (R S : P → P → Prop) (x : Filling P α) : Prop where
  agree : ∀ s p p', R p p' → Agree S (x (s, p)) (x (s, p'))

namespace Paired

variable {R S T : P → P → Prop}

theorem pure' (a : α) : Paired R R (pure a : Filling P α) :=
  ⟨fun _ _ _ hr => ⟨rfl, rfl, hr⟩⟩

theorem throw' (e : Failure) : Paired R S (throw e : Filling P α) :=
  ⟨fun _ _ _ _ => ⟨rfl, rfl⟩⟩

/-- A sequence is paired when its first step is, and its rest is from what the first step
leaves. -/
theorem bind' {x : Filling P α} {f : α → Filling P β} (hx : Paired R S x)
    (hf : ∀ a, Paired S T (f a)) : Paired R T (x >>= f) := by
  constructor
  intro s p p' hr
  have agree := hx.agree s p p' hr
  revert agree
  simp only [bind, EStateM.bind]
  rcases x (s, p) with ⟨a, s₁, p₁⟩ | ⟨e, s₁, p₁⟩ <;>
    rcases x (s, p') with ⟨a', s₂, p₂⟩ | ⟨e', s₂, p₂⟩
  · rintro ⟨rfl, rfl, hs⟩
    exact (hf a).agree s₁ p₁ p₂ hs
  · rintro ⟨⟩
  · rintro ⟨⟩
  · rintro ⟨rfl, rfl⟩
    exact ⟨rfl, rfl⟩

theorem seq' {x : Filling P α} {y : Filling P β} (hx : Paired R S x) (hy : Paired S T y) :
    Paired R T (x >>= fun _ => y) :=
  bind' hx fun _ => hy

/-- A branch on a condition that does not look at the value is paired when each arm is, under
its condition. -/
theorem ite' {c : Prop} [Decidable c] {x y : Filling P α} (hx : c → Paired R S x)
    (hy : ¬ c → Paired R S y) : Paired R S (if c then x else y) := by
  by_cases hc : c
  · rw [if_pos hc]
    exact hx hc
  · rw [if_neg hc]
    exact hy hc

theorem mono {R' S' : P → P → Prop} {x : Filling P α} (hx : Paired R S x)
    (pre : ∀ p p', R' p p' → R p p') (post : ∀ p p', S p p' → S' p p') : Paired R' S' x :=
  ⟨fun s p p' hr => Agree.mono post (hx.agree s p p' (pre p p' hr))⟩

theorem weaken {R' : P → P → Prop} {x : Filling P α} (hx : Paired R S x)
    (pre : ∀ p p', R' p p' → R p p') : Paired R' S x :=
  hx.mono pre fun _ _ h => h

theorem update' {f : P → P} (hf : ∀ p p', R p p' → S (f p) (f p')) :
    Paired R S (Filling.update f) :=
  ⟨fun _ p p' hr => ⟨rfl, rfl, hf p p' hr⟩⟩

theorem unread' : Paired R R (Filling.unread : Filling P Nat) :=
  ⟨fun _ _ _ hr => ⟨rfl, rfl, hr⟩⟩

theorem read' {r : Reading α} : Paired R R (Filling.read r : Filling P α) := by
  constructor
  intro s p p' hr
  simp only [Filling.read]
  rcases r s with ⟨a, s'⟩ | ⟨e, s'⟩
  · exact ⟨rfl, rfl, hr⟩
  · exact ⟨rfl, rfl⟩

/-- A field read into both values: a failed read sets the field on both too, but a failure's
values are not compared. -/
theorem field' {r : Reading α} {zero : α} {set : P → α → P}
    (hset : ∀ p p' a, R p p' → S (set p a) (set p' a)) : Paired R S (Filling.field r zero set) := by
  constructor
  intro s p p' hr
  simp only [Filling.field]
  rcases r s with ⟨a, s'⟩ | ⟨e, s'⟩
  · exact ⟨rfl, rfl, hset p p' a hr⟩
  · exact ⟨rfl, rfl⟩

/-- Once the two values are the same, every reader is paired. -/
theorem same (x : Filling P α) : Paired Eq Eq x := by
  constructor
  rintro s p _ rfl
  exact Agree.refl _

end Paired

end Filling

open Filling

/-! ## The checks before a body -/

theorem expectKind_paired {P : Type} {R : P → P → Prop} (h : FixedHeader) (k : PacketKind) :
    Paired R R (expectKind h k) :=
  .ite' (fun _ => .pure' ()) (fun _ => .throw' _)

theorem expectFlags_paired {P : Type} {R : P → P → Prop} (h : FixedHeader) :
    Paired R R (expectFlags h) := by
  unfold expectFlags
  split
  · exact .pure' ()
  · exact .throw' _

/-! ## Body readers

Each reader is paired from the target against a new packet. The relation after each step says
which fields are read so far: those agree, and the others still hold the target's values. -/

namespace Connect

/-- A CONNECT read into `t` against one read into a new packet, once the flags byte `flags` is
taken apart: the two agree on every field but the six read after it, each of which agrees once
it is read and holds `t`'s value until then, and the will flag is bit 2 of `flags`. -/
def ReadSoFar (t : Connect) (flags : UInt8) (aliveRead idRead topicRead messageRead userRead
    passRead : Bool) (p p' : Connect) : Prop :=
  p = { p' with
    keepAlive := if aliveRead then p'.keepAlive else t.keepAlive
    clientId := if idRead then p'.clientId else t.clientId
    willTopic := if topicRead then p'.willTopic else t.willTopic
    willMessage := if messageRead then p'.willMessage else t.willMessage
    username := if userRead then p'.username else t.username
    password := if passRead then p'.password else t.password } ∧
  p'.willFlag = (flags &&& 0x04 != 0)

/-- Taking the flags byte apart sets the clean-session and will options on both values, the
will flag from bit 2. -/
theorem applyFlags_paired (t : Connect) (f : UInt8) :
    Paired (fun p p' => p = { t with
        protocolName := p'.protocolName
        protocolLevel := p'.protocolLevel })
      (ReadSoFar t f false false false false false false) (applyFlags f) := by
  unfold applyFlags
  extract_lets qos will retain credentials noWill checked
  let R := fun p p' : Connect => p = { t with
    protocolName := p'.protocolName
    protocolLevel := p'.protocolLevel }
  let S := ReadSoFar t f false false false false false false
  have hcredentials : ∀ u, Paired S S (credentials u) := fun _ =>
    .ite' (fun _ => .throw' _) (fun _ => .pure' ())
  have hnoWill : ∀ u, Paired S S (noWill u) := fun _ =>
    .ite' (fun _ => .seq' (.throw' _) (hcredentials ())) (fun _ => hcredentials ())
  have hchecked : ∀ u, Paired R S (checked u) := by
    intro _
    refine .seq' (.update' ?_) (.ite' (fun _ => .seq' (.throw' _) (hnoWill ())) fun _ => hnoWill ())
    rintro p p' rfl
    exact ⟨rfl, rfl⟩
  exact .ite' (fun _ => .seq' (.throw' _) (hchecked ())) fun _ => hchecked ()

/-- A CONNECT body read into `t` gives the packet read into a new one, with `t`'s will when the
flags carry none, and `t`'s user name and password where the flags leave them out. -/
theorem readBody_paired (h : FixedHeader) (t : Connect) :
    Paired (fun p _ => p = t)
      (fun p p' => ∃ user pass,
        Packet.connect p = (Packet.connect t).keepOmitted user pass (.connect p'))
      (readBody h) := by
  unfold readBody
  refine .seq' (expectKind_paired h _) <| .seq' (expectFlags_paired h) <| .bind' .unread' fun start =>
    .bind' .read' fun name =>
    .seq' (.update' (S := fun p p' => p = { t with protocolName := p'.protocolName }) ?_) <|
    .bind' .read' fun fixed => ?_
  · rintro p p' rfl
    rfl
  extract_lets level flags lengthCheck password username
  -- From here the flags byte is known; which optional fields are read is told by its bits.
  let F := fun p p' : Connect => ∃ user pass,
    Packet.connect p = (Packet.connect t).keepOmitted user pass (.connect p')
  have hcheck : ∀ u, Paired (ReadSoFar t flags true true (flags &&& 0x04 != 0)
      (flags &&& 0x04 != 0) (flags &&& 0x80 != 0) (flags &&& 0x40 != 0)) F (lengthCheck u) := by
    intro _
    refine (Paired.bind' .unread' fun _ => .ite' (fun _ => .throw' _) fun _ => .pure' ()).mono
      (fun _ _ hr => hr) ?_
    rintro p p' ⟨rfl, hw⟩
    refine ⟨flags &&& 0x80 != 0, flags &&& 0x40 != 0, ?_⟩
    simp only [Packet.keepOmitted, hw, if_true]
  have hpassword : ∀ u, Paired (ReadSoFar t flags true true (flags &&& 0x04 != 0)
      (flags &&& 0x04 != 0) (flags &&& 0x80 != 0) false) F (password u) := by
    intro _
    refine .ite' (fun hb => .seq' (.field' ?_) (hcheck ()))
      fun hb => (hcheck ()).weaken fun _ _ hr => by rwa [Bool.eq_false_iff.mpr hb]
    rintro p p' a ⟨rfl, hw⟩
    rw [hb]
    exact ⟨rfl, hw⟩
  have husername : ∀ u, Paired (ReadSoFar t flags true true (flags &&& 0x04 != 0)
      (flags &&& 0x04 != 0) false false) F (username u) := by
    intro _
    refine .ite' (fun hb => .seq' (.field' ?_) (hpassword ()))
      fun hb => (hpassword ()).weaken fun _ _ hr => by rwa [Bool.eq_false_iff.mpr hb]
    rintro p p' a ⟨rfl, hw⟩
    rw [hb]
    exact ⟨rfl, hw⟩
  refine .seq' (.update' (S := fun p p' => p = { t with
      protocolName := p'.protocolName
      protocolLevel := p'.protocolLevel }) ?_) <| .seq' (applyFlags_paired t flags) <|
    .seq' (.field' (S := ReadSoFar t flags true false false false false false) ?_) <|
    .seq' (.field' (S := ReadSoFar t flags true true false false false false) ?_) <|
    .ite' (fun hb => .seq' (.field' (S := ReadSoFar t flags true true true false false false) ?_) <|
      .seq' (.field' (S := ReadSoFar t flags true true true true false false) ?_) <|
      (husername ()).weaken fun _ _ hr => by rwa [hb])
      fun hb => (husername ()).weaken fun _ _ hr => by rwa [Bool.eq_false_iff.mpr hb]
  · rintro p p' rfl
    rfl
  · rintro p p' a ⟨rfl, hw⟩
    exact ⟨rfl, hw⟩
  · rintro p p' a ⟨rfl, hw⟩
    exact ⟨rfl, hw⟩
  · rintro p p' a ⟨rfl, hw⟩
    exact ⟨rfl, hw⟩
  · rintro p p' a ⟨rfl, hw⟩
    exact ⟨rfl, hw⟩

end Connect

/-- A CONNACK body replaces the whole packet. -/
theorem Connack.readBody_paired (h : FixedHeader) :
    Paired (fun _ _ => True) Eq (Connack.readBody h) := by
  unfold Connack.readBody
  refine .seq' (expectKind_paired h _) <| .seq' (expectFlags_paired h) ?_
  extract_lets body
  have hbody : ∀ u, Paired (fun _ _ => True) Eq (body u) := fun _ =>
    .bind' .read' fun _ => .ite' (fun _ => .seq' (S := Eq) (.throw' _) (.update' fun _ _ _ => rfl))
      fun _ => .update' fun _ _ _ => rfl
  exact .ite' (fun _ => .seq' (.throw' _) (hbody ())) fun _ => hbody ()

namespace Publish

/-- A PUBLISH read into `t` against one read into a new packet, once the flags of header `h`
are set: the two agree on every field but the topic, the identifier and the payload, each of
which agrees once it is read and holds `t`'s value until then, and the QoS is the header's. -/
def ReadSoFar (t : Publish) (h : FixedHeader) (topicRead idRead payloadRead : Bool)
    (p p' : Publish) : Prop :=
  p = { p' with
    topic := if topicRead then p'.topic else t.topic
    packetId := if idRead then p'.packetId else t.packetId
    payload := if payloadRead then p'.payload else t.payload } ∧
  p'.qos = h.qos

/-- A payload read sets the payload of both values, whether it arrives whole or not. -/
theorem readPayload_paired {R : Publish → Publish → Prop}
    (hset : ∀ p p' b, R p p' → R { p with payload := b } { p' with payload := b }) (n : Nat) :
    Paired R R (readPayload n) := by
  constructor
  intro s p p' hr
  simp only [readPayload]
  split
  · exact ⟨rfl, rfl, hset p p' _ hr⟩
  · exact ⟨rfl, rfl⟩

/-- A PUBLISH body read into `t` gives the packet read into a new one, with `t`'s identifier at
QoS 0. -/
theorem readBody_paired (h : FixedHeader) (t : Publish) :
    Paired (fun p _ => p = t)
      (fun p p' => Packet.publish p = (Packet.publish t).keepOmitted false false (.publish p'))
      (readBody h) := by
  unfold readBody
  refine .seq' (expectKind_paired h _) <| .seq' (expectFlags_paired h) <|
    .seq' (.update' (S := ReadSoFar t h false false false) ?_) <| .bind' .unread' fun start =>
    .seq' (.field' (S := ReadSoFar t h true false false) ?_) ?_
  · rintro p p' rfl
    exact ⟨rfl, rfl⟩
  · rintro p p' a ⟨rfl, hq⟩
    exact ⟨rfl, hq⟩
  extract_lets rest
  -- After the identifier, whether it was read or not, only the payload is left to read.
  have hrest : ∀ u, Paired (ReadSoFar t h true (decide (h.qos > 0)) false)
      (fun p p' => Packet.publish p = (Packet.publish t).keepOmitted false false (.publish p'))
      (rest u) := by
    intro _
    refine .bind' .unread' fun left => ?_
    extract_lets used length payload
    have hpayload : ∀ u, Paired (ReadSoFar t h true (decide (h.qos > 0)) false)
        (fun p p' => Packet.publish p = (Packet.publish t).keepOmitted false false (.publish p'))
        (payload u) := by
      intro _
      refine .seq' (.update' (S := ReadSoFar t h true (decide (h.qos > 0)) true) ?_) <|
        Paired.mono (.ite' (fun _ => readPayload_paired ?_ _) fun _ => .pure' ())
          (fun _ _ hr => hr) ?_
      · rintro p p' ⟨rfl, hq⟩
        exact ⟨rfl, hq⟩
      · rintro p p' b ⟨rfl, hq⟩
        exact ⟨rfl, hq⟩
      · rintro p p' ⟨rfl, hq⟩
        simp only [Packet.keepOmitted, hq, decide_eq_true_eq, if_true]
    exact .ite' (fun _ => .seq' (.throw' _) (hpayload ())) fun _ => hpayload ()
  refine .ite' (fun hq => .seq' (.field' ?_) (hrest ()))
    fun hq => (hrest ()).weaken fun _ _ hr => by rwa [decide_eq_false hq]
  rintro p p' a ⟨rfl, hq'⟩
  rw [decide_eq_true hq]
  exact ⟨rfl, hq'⟩

end Publish

/-- An acknowledgment body replaces the whole identifier. -/
theorem readAck_paired (k : PacketKind) (h : FixedHeader) :
    Paired (fun _ _ => True) Eq (readAck k h) := by
  unfold readAck
  refine .seq' (.update' (S := fun _ _ => True) fun _ _ _ => trivial) <| .seq' (expectKind_paired h k) ?_
  extract_lets field lengthChecked
  have hfield : ∀ u, Paired (fun _ _ => True) Eq (field u) := fun _ =>
    .seq' (.field' fun _ _ _ _ => rfl) (.pure' ())
  have hlength : ∀ u, Paired (fun _ _ => True) Eq (lengthChecked u) := fun _ =>
    .ite' (fun _ => .seq' (.throw' _) (hfield ())) fun _ => hfield ()
  exact .ite' (fun _ => .seq' (.throw' _) (hlength ())) fun _ => hlength ()

/-- A SUBSCRIBE body starts the packet afresh once its identifier is read. -/
theorem Subscribe.readBody_paired (h : FixedHeader) :
    Paired (fun _ _ => True) Eq (Subscribe.readBody h) := by
  unfold Subscribe.readBody
  exact .seq' (expectKind_paired h _) <| .seq' (expectFlags_paired h) <|
    .bind' .unread' fun _ => .bind' .read' fun _ =>
    .seq' (.update' fun _ _ _ => rfl) (.same _)

/-- An UNSUBSCRIBE body starts the packet afresh once its identifier is read. -/
theorem Unsubscribe.readBody_paired (h : FixedHeader) :
    Paired (fun _ _ => True) Eq (Unsubscribe.readBody h) := by
  unfold Unsubscribe.readBody
  exact .seq' (expectKind_paired h _) <| .seq' (expectFlags_paired h) <|
    .bind' .unread' fun _ => .bind' .read' fun _ =>
    .seq' (.update' fun _ _ _ => rfl) (.same _)

/-- A SUBACK body sets both of its fields. -/
theorem Suback.readBody_paired (h : FixedHeader) :
    Paired (fun _ _ => True) Eq (Suback.readBody h) := by
  unfold Suback.readBody
  refine .seq' (expectKind_paired h _) <| .seq' (expectFlags_paired h) ?_
  extract_lets codes
  have hcodes : ∀ u, Paired (fun _ _ => True) Eq (codes u) := by
    intro _
    refine .bind' .read' fun _ => .seq' (.update' (S := fun p p' => p.packetId = p'.packetId)
      fun _ _ _ => rfl) <| .bind' .read' fun _ => ?_
    extract_lets good
    refine .seq' (.update' ?_) (.ite' (fun _ => .throw' _) fun _ => .pure' ())
    rintro ⟨i, c⟩ ⟨i', c'⟩ hi
    cases hi
    rfl
  exact .ite' (fun _ => .seq' (.throw' _) (hcodes ())) fun _ => hcodes ()

/-! ## Frames -/

/-- A frame read by a reader that runs on the contents of the packet compares as the reader's
two runs on the body do. -/
theorem Packet.readFrame_focus {Q : Type} {x : Filling Q Unit} {wrap : Q → Packet}
    {S : Q → Q → Prop} {g : Bool → Bool → Packet → Packet} {h : FixedHeader} {c c' : Q}
    {body : Bytes} (reads : ∀ c, Packet.readBody h (wrap c) = Filling.focus (fun _ => c) wrap x)
    (agree : Agree S (x (body, c)) (x (body, c')))
    (hg : ∀ q q', S q q' → ∃ user pass, wrap q = g user pass (wrap q')) :
    ∃ user pass, Packet.readFrame h (wrap c) body =
      (Packet.readFrame h (wrap c') body).map (g user pass) := by
  simp only [Packet.readFrame, Packet.readBodyFrom, reads, Filling.focus]
  revert agree
  rcases x (body, c) with ⟨u, r, q⟩ | ⟨e, r, q⟩ <;>
    rcases x (body, c') with ⟨u', r', q'⟩ | ⟨e', r', q'⟩
  · rintro ⟨-, rfl, hs⟩
    obtain ⟨user, pass, hq⟩ := hg q q' hs
    refine ⟨user, pass, ?_⟩
    simp only [hq]
    split <;> rfl
  · rintro ⟨⟩
  · rintro ⟨⟩
  · rintro ⟨rfl, rfl⟩
    exact ⟨false, false, rfl⟩

/-- A body read into a target of its kind gives the packet read into a new one, with the
target's values in the fields the body leaves out. -/
theorem Packet.readFrame_reused (h : FixedHeader) (t : Packet) (body : Bytes) :
    ∃ user pass, Packet.readFrame h t body =
      (Packet.readFrame h (Packet.empty t.kind) body).map (t.keepOmitted user pass) := by
  -- The kinds whose reader sets every field: the target leaves no trace.
  have whole : ∀ {Q : Type} {x : Filling Q Unit} {wrap : Q → Packet} (c c' : Q),
      (∀ c, Packet.readBody h (wrap c) = Filling.focus (fun _ => c) wrap x) →
      Paired (fun _ _ => True) Eq x → (∀ q, (wrap c).keepOmitted false false (wrap q) = wrap q) →
      ∃ user pass, Packet.readFrame h (wrap c) body =
        (Packet.readFrame h (wrap c') body).map ((wrap c).keepOmitted user pass) :=
    fun c c' reads paired keeps => Packet.readFrame_focus reads (paired.agree body c c' trivial)
      fun q _ hq => ⟨false, false, by rw [hq, keeps]⟩
  cases t with
  | connect q =>
    exact Packet.readFrame_focus (fun _ => rfl)
      ((Connect.readBody_paired h q).agree body q {} rfl) fun _ _ hq => hq
  | publish q =>
    exact Packet.readFrame_focus (fun _ => rfl)
      ((Publish.readBody_paired h q).agree body q {} rfl) fun _ _ hq => ⟨false, false, hq⟩
  | connack q => exact whole q {} (fun _ => rfl) (Connack.readBody_paired h) fun _ => rfl
  | puback i => exact whole i 0 (fun _ => rfl) (readAck_paired _ h) fun _ => rfl
  | pubrec i => exact whole i 0 (fun _ => rfl) (readAck_paired _ h) fun _ => rfl
  | pubrel i => exact whole i 0 (fun _ => rfl) (readAck_paired _ h) fun _ => rfl
  | pubcomp i => exact whole i 0 (fun _ => rfl) (readAck_paired _ h) fun _ => rfl
  | subscribe q => exact whole q {} (fun _ => rfl) (Subscribe.readBody_paired h) fun _ => rfl
  | suback q => exact whole q {} (fun _ => rfl) (Suback.readBody_paired h) fun _ => rfl
  | unsubscribe q => exact whole q {} (fun _ => rfl) (Unsubscribe.readBody_paired h) fun _ => rfl
  | unsuback i => exact whole i 0 (fun _ => rfl) (readAck_paired _ h) fun _ => rfl
  | pingreq | pingresp | disconnect =>
    refine ⟨false, false, ?_⟩
    simp only [Packet.kind, Packet.empty]
    cases Packet.readFrame _ _ body <;> rfl

/-! ## Buffers -/

/-- The code of a header read from a buffer is the high nibble of its first byte, however far
the reading got. -/
theorem FixedHeader.readFrom_code (x : UInt8) (rest : Bytes) :
    (FixedHeader.readFrom (x :: rest)).1.code = x >>> 4 := by
  simp only [FixedHeader.readFrom, FixedHeader.read, bind, EStateM.bind, Filling.read,
    Filling.update, Reading.byte]
  by_cases named : (FixedHeader.ofFirstByte x).kind?.isNone = true
  · rw [if_pos named]
    rfl
  · rw [if_neg named]
    simp only [EStateM.bind, Filling.read]
    cases Reading.length rest <;> rfl

theorem Codec.readHeader_code {x : UInt8} {rest body : Bytes} {h : FixedHeader}
    (read : Codec.readHeader (x :: rest) = .ok (h, body)) : h.code = x >>> 4 := by
  have code := FixedHeader.readFrom_code x rest
  unfold Codec.readHeader at read
  rcases hr : FixedHeader.readFrom (x :: rest) with ⟨h', r, _ | e⟩
  · rw [hr] at code read
    simp only at read
    split at read
    · cases read
    · cases read
      exact code
  · rw [hr] at read
    cases read

theorem PacketKind.code_of_ofCode? {c : UInt8} {k : PacketKind} (h : PacketKind.ofCode? c = some k) :
    k.code = c := by
  simpa using List.find?_some h

/-- A header read from a buffer whose first byte names kind `k` names `k` too. -/
theorem Codec.readHeader_named {x : UInt8} {rest body : Bytes} {h : FixedHeader} {k : PacketKind}
    (read : Codec.readHeader (x :: rest) = .ok (h, body))
    (named : (FixedHeader.ofFirstByte x).kind? = some k) : h.kind? = some k ∧ k.code = h.code := by
  have hcode : h.code = x >>> 4 := Codec.readHeader_code read
  constructor
  · rw [FixedHeader.kind?, hcode]
    exact named
  · rw [hcode]
    exact PacketKind.code_of_ofCode? named

/-- Into a target of the kind that the first byte names, `decodeInto` fails as `decode` fails,
and otherwise reads what `decode` reads, with the same bytes used, except that the fields the
body leaves out keep the target's values. -/
theorem Codec.decodeInto_reused (c : Codec) (x : UInt8) (rest : Bytes) (t : Packet)
    (named : (FixedHeader.ofFirstByte x).kind? = some t.kind) :
    ∃ user pass, c.decodeInto (x :: rest) (some t) =
      (c.decode (x :: rest)).map fun (p, n) => (t.keepOmitted user pass p, n) := by
  cases hheader : Codec.readHeader (x :: rest) with
  | error e =>
    refine ⟨false, false, ?_⟩
    simp [Codec.decodeInto, Codec.decode, hheader, bind, Except.bind, Except.map]
  | ok read =>
    obtain ⟨h, body⟩ := read
    obtain ⟨hkind, htarget⟩ := Codec.readHeader_named hheader named
    obtain ⟨user, pass, hframe⟩ := Packet.readFrame_reused h t (body.take h.remainingLength)
    refine ⟨user, pass, ?_⟩
    simp only [Codec.decodeInto, Codec.decode, hheader, bind, Except.bind, htarget, bne_self_eq_false,
      hkind, Option.getD_some, hframe, Bool.false_eq_true, if_false]
    cases Packet.readFrame h (Packet.empty t.kind) (body.take h.remainingLength) <;> rfl

/-- A QoS 0 PUBLISH read into a packet that held identifier 5 keeps it, where a new packet
reads identifier 0. -/
theorem Codec.decodeInto_reused_publish :
    (FixedHeader.ofFirstByte 0x30).kind? = some (Packet.publish { packetId := 5 }).kind ∧
      ({} : Codec).decode [0x30, 5, 0, 3, 0x61, 0x2F, 0x62] =
        .ok (.publish { topic := [0x61, 0x2F, 0x62] }, 7) ∧
      ({} : Codec).decodeInto [0x30, 5, 0, 3, 0x61, 0x2F, 0x62] (some (.publish { packetId := 5 })) =
        .ok (.publish { topic := [0x61, 0x2F, 0x62], packetId := 5 }, 7) := by
  have named : (FixedHeader.ofFirstByte 0x30).kind? = some (Packet.publish { packetId := 5 }).kind := by
    decide
  have fresh : ({} : Codec).decode [0x30, 5, 0, 3, 0x61, 0x2F, 0x62] =
      .ok (.publish { topic := [0x61, 0x2F, 0x62] }, 7) := by
    rfl
  obtain ⟨user, pass, reused⟩ := Codec.decodeInto_reused {} 0x30 [5, 0, 3, 0x61, 0x2F, 0x62] _ named
  refine ⟨named, fresh, ?_⟩
  rw [reused, fresh]
  rfl

/-- Into a new packet of the kind that the first byte names, `decodeInto` is `decode`. -/
theorem Codec.decodeInto_empty (c : Codec) (x : UInt8) (rest : Bytes) (k : PacketKind)
    (named : (FixedHeader.ofFirstByte x).kind? = some k) :
    c.decodeInto (x :: rest) (some (Packet.empty k)) = c.decode (x :: rest) := by
  cases hheader : Codec.readHeader (x :: rest) with
  | error e => simp [Codec.decodeInto, Codec.decode, hheader, bind, Except.bind]
  | ok read =>
    obtain ⟨h, body⟩ := read
    obtain ⟨hkind, htarget⟩ := Codec.readHeader_named hheader named
    simp only [Codec.decodeInto, Codec.decode, hheader, bind, Except.bind, Packet.kind_empty, htarget,
      bne_self_eq_false, hkind, Option.getD_some, Bool.false_eq_true, if_false]

end Mqtt
