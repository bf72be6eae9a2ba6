import Mqtt.Codec
/-! # What a body reader fails with

`FailsOnly ok x` says that a run of `x`, from any state, fails only with failures that satisfy
`ok`. It is built up along the `do` blocks of the readers, one lemma per way of putting a
reader together (`pure'`, `throw'`, `bind'`, `seq'`, `ite'`) and one per primitive. The join
points of a `do` block are taken out with `extract_lets` and proved once each.

Every body reader fails only with a body fault (`Packet.readBody_failsOnly`): a decode
condition, or the end of the stream inside the body. A body that cannot be read whole is then
a decode fault, never a failed read or the end of the stream (`Packet.readFrame_decodeFault`).
-/

namespace Mqtt

/-- A fault a body reader reports: a decode condition with no more to it, or the end of the
stream inside the body. -/
def Failure.bodyFault : Failure → Bool
  | .of c => c.parent == some .decode || c == .endOfStream || c == .unexpectedEnd
  | _ => false

/-- `FailsOnly ok x`: from every state, every failure of `x` satisfies `ok`. -/
structure FailsOnly {σ α : Type} (ok : Failure → Prop) (x : EStateM Failure σ α) : Prop where
  fails : ∀ st e st', x st = .error e st' → ok e

namespace FailsOnly

variable {σ α β : Type} {ok : Failure → Prop}

/-- `pure` never fails. -/
theorem pure' (a : α) : FailsOnly ok (pure a : EStateM Failure σ α) :=
  ⟨fun _ _ _ h => nomatch h⟩

/-- `throw e` fails with `e`. -/
theorem throw' {e : Failure} (he : ok e) : FailsOnly ok (throw e : EStateM Failure σ α) :=
  ⟨fun _ _ _ h => by cases h; exact he⟩

/-- A sequence fails as its first step or as the step after it. -/
theorem bind' {x : EStateM Failure σ α} {f : α → EStateM Failure σ β} (hx : FailsOnly ok x)
    (hf : ∀ a, FailsOnly ok (f a)) : FailsOnly ok (x >>= f) := by
  constructor
  intro st e st' h
  simp only [bind, EStateM.bind] at h
  split at h
  · exact (hf _).fails _ _ _ h
  · cases h
    exact hx.fails _ _ _ ‹_›

/-- A branch fails as one of its arms. -/
theorem ite' {c : Prop} [Decidable c] {x y : EStateM Failure σ α} (hx : FailsOnly ok x)
    (hy : FailsOnly ok y) : FailsOnly ok (if c then x else y) := by
  split
  · exact hx
  · exact hy

/-- Changing the value being filled never fails. -/
theorem update' {P : Type} (f : P → P) : FailsOnly ok (Filling.update f) :=
  ⟨fun _ _ _ h => nomatch h⟩

/-- Counting the unread bytes never fails. -/
theorem unread' {P : Type} : FailsOnly ok (Filling.unread : Filling P Nat) :=
  ⟨fun _ _ _ h => nomatch h⟩

/-- Looking at the value being filled never fails. -/
theorem current' {P : Type} : FailsOnly ok (Filling.current : Filling P P) :=
  ⟨fun _ _ _ h => nomatch h⟩

/-- A reading run on the stream of a filling fails as the reading. -/
theorem read' {P : Type} {r : Reading α} (hr : FailsOnly ok r) :
    FailsOnly ok (Filling.read r : Filling P α) := by
  constructor
  rintro ⟨s, p⟩ e st' h
  simp only [Filling.read] at h
  split at h
  · cases h
  · cases h
    exact hr.fails _ _ _ ‹_›

/-- A field read into the value fails as its reading. -/
theorem field' {P : Type} {r : Reading α} (hr : FailsOnly ok r) (zero : α) (set : P → α → P) :
    FailsOnly ok (Filling.field r zero set) := by
  constructor
  rintro ⟨s, p⟩ e st' h
  simp only [Filling.field] at h
  split at h
  · cases h
  · cases h
    exact hr.fails _ _ _ ‹_›

/-- A filling run through a view fails as the filling. -/
theorem focus' {P Q : Type} {get : P → Q} {put : Q → P} {f : Filling Q α} (hf : FailsOnly ok f) :
    FailsOnly ok (Filling.focus get put f) := by
  constructor
  rintro ⟨s, p⟩ e st' h
  simp only [Filling.focus] at h
  split at h
  · cases h
  · cases h
    exact hf.fails _ _ _ ‹_›

/-- A sequence whose second step ignores the first step's value. -/
theorem seq' {x : EStateM Failure σ α} {y : EStateM Failure σ β} (hx : FailsOnly ok x)
    (hy : FailsOnly ok y) : FailsOnly ok (x >>= fun _ => y) :=
  bind' hx fun _ => hy

end FailsOnly

/-! ## Field readers -/

/-- A stream that ends too soon is a body fault. -/
theorem Reading.shortfall_bodyFault (s : Bytes) : (Reading.shortfall s).bodyFault = true := by
  unfold Reading.shortfall
  split <;> rfl

/-- The field readers fail only when the stream ends, or on a text that is not text. -/
theorem Reading.bytes_failsOnly (k : Nat) : FailsOnly (·.bodyFault) (Reading.bytes k) := by
  constructor
  intro s e s' h
  simp only [Reading.bytes] at h
  split at h
  · cases h
  · cases h
    exact Reading.shortfall_bodyFault s

/-- A byte is missing only at the end of the stream. -/
theorem Reading.byte_failsOnly : FailsOnly (·.bodyFault) Reading.byte := by
  constructor
  intro s e s' h
  cases s with
  | nil => cases h; rfl
  | cons b r => cases h

/-- A two-byte number is cut short only by the end of the stream. -/
theorem Reading.u16_failsOnly : FailsOnly (·.bodyFault) Reading.u16 := by
  constructor
  intro s e s' h
  simp only [Reading.u16] at h
  split at h
  · cases h
  · cases h
    exact Reading.shortfall_bodyFault _

/-- Binary data is cut short only by the end of the stream. -/
theorem Reading.binary_failsOnly : FailsOnly (·.bodyFault) Reading.binary := by
  unfold Reading.binary
  refine .bind' Reading.u16_failsOnly fun n => ?_
  exact .ite' (.pure' _) (Reading.bytes_failsOnly _)

/-- A text field fails on the end of the stream, or on bytes that are not text. -/
theorem Reading.text_failsOnly : FailsOnly (·.bodyFault) Reading.text := by
  unfold Reading.text
  refine .bind' Reading.binary_failsOnly fun b => ?_
  extract_lets done check
  have hdone : ∀ u, FailsOnly (·.bodyFault) (done u) := fun _ => .pure' b
  have hcheck : ∀ u, FailsOnly (·.bodyFault) (check u) := fun _ =>
    .ite' (.bind' (.throw' rfl) hdone) (hdone ())
  exact .ite' (.bind' (.throw' rfl) hcheck) (hcheck ())

/-! ## Body readers -/

/-- A header of another kind is a decode fault. -/
theorem expectKind_failsOnly {P : Type} (h : FixedHeader) (k : PacketKind) :
    FailsOnly (·.bodyFault) (expectKind h k : Filling P Unit) :=
  .ite' (.pure' ()) (.throw' rfl)

/-- Flags that do not suit the kind are a decode fault. -/
theorem expectFlags_failsOnly {P : Type} (h : FixedHeader) :
    FailsOnly (·.bodyFault) (expectFlags h : Filling P Unit) := by
  unfold expectFlags FixedHeader.checkFlags
  split
  · exact .pure' ()
  · rename_i f hf
    refine .throw' ?_
    split at hf
    · split at hf <;> cases hf
      rfl
    · split at hf <;> cases hf
      rfl
    · cases hf
      rfl

/-- Connect flags that cannot be taken apart are a decode fault. -/
theorem Connect.applyFlags_failsOnly (f : UInt8) : FailsOnly (·.bodyFault) (Connect.applyFlags f) := by
  unfold Connect.applyFlags
  extract_lets qos will retain credentials noWill checked
  have hcred : ∀ u, FailsOnly (·.bodyFault) (credentials u) := fun _ =>
    .ite' (.throw' rfl) (.pure' ())
  have hnoWill : ∀ u, FailsOnly (·.bodyFault) (noWill u) := fun _ =>
    .ite' (.bind' (.throw' rfl) hcred) (hcred ())
  have hchecked : ∀ u, FailsOnly (·.bodyFault) (checked u) := fun _ =>
    .seq' (.update' _) (.ite' (.bind' (.throw' rfl) hnoWill) (hnoWill ()))
  exact .ite' (.bind' (.throw' rfl) hchecked) (hchecked ())

/-- The CONNECT body reader fails only with a body fault. -/
theorem Connect.readBody_failsOnly (h : FixedHeader) : FailsOnly (·.bodyFault) (Connect.readBody h) := by
  unfold Connect.readBody
  refine .bind' (expectKind_failsOnly h _) fun _ => .bind' (expectFlags_failsOnly h) fun _ =>
    .bind' .unread' fun start => .bind' (.read' Reading.text_failsOnly) fun name =>
    .bind' (.update' _) fun _ => .bind' (.read' (Reading.bytes_failsOnly 2)) fun fixed => ?_
  extract_lets level flags lengthCheck password username
  have hcheck : ∀ u, FailsOnly (·.bodyFault) (lengthCheck u) := fun _ =>
    .bind' .unread' fun _ => .ite' (.throw' rfl) (.pure' ())
  have hpassword : ∀ u, FailsOnly (·.bodyFault) (password u) := fun _ =>
    .ite' (.seq' (.field' Reading.binary_failsOnly _ _) (hcheck ())) (hcheck ())
  have husername : ∀ u, FailsOnly (·.bodyFault) (username u) := fun _ =>
    .ite' (.seq' (.field' Reading.text_failsOnly _ _) (hpassword ())) (hpassword ())
  exact .seq' (.update' _) <| .seq' (Connect.applyFlags_failsOnly flags) <|
    .seq' (.field' Reading.u16_failsOnly _ _) <| .seq' (.field' Reading.text_failsOnly _ _) <|
    .ite' (.seq' (.field' Reading.text_failsOnly _ _) <|
      .seq' (.field' Reading.binary_failsOnly _ _) (husername ())) (husername ())

/-- The CONNACK body reader fails only with a body fault. -/
theorem Connack.readBody_failsOnly (h : FixedHeader) : FailsOnly (·.bodyFault) (Connack.readBody h) := by
  unfold Connack.readBody
  refine .seq' (expectKind_failsOnly h _) <| .seq' (expectFlags_failsOnly h) ?_
  extract_lets body
  have hbody : ∀ u, FailsOnly (·.bodyFault) (body u) := fun _ =>
    .bind' (.read' (Reading.bytes_failsOnly 2)) fun _ =>
      .ite' (.seq' (.throw' rfl) (.update' _)) (.update' _)
  exact .ite' (.bind' (.throw' rfl) hbody) (hbody ())

/-- A payload is cut short only by the end of the stream. -/
theorem Publish.readPayload_failsOnly (n : Nat) : FailsOnly (·.bodyFault) (Publish.readPayload n) := by
  constructor
  rintro ⟨s, p⟩ e st' h
  simp only [Publish.readPayload] at h
  split at h
  · cases h
  · cases h
    exact Reading.shortfall_bodyFault s

/-- The PUBLISH body reader fails only with a body fault. -/
theorem Publish.readBody_failsOnly (h : FixedHeader) : FailsOnly (·.bodyFault) (Publish.readBody h) := by
  unfold Publish.readBody
  refine .seq' (expectKind_failsOnly h _) <| .seq' (expectFlags_failsOnly h) <|
    .seq' (.update' _) <| .bind' .unread' fun start => .seq' (.field' Reading.text_failsOnly _ _) ?_
  extract_lets rest
  have hrest : ∀ u, FailsOnly (·.bodyFault) (rest u) := by
    intro _
    refine .bind' .unread' fun left => ?_
    extract_lets used length payload
    have hpayload : ∀ u, FailsOnly (·.bodyFault) (payload u) := fun _ =>
      .seq' (.update' _) (.ite' (Publish.readPayload_failsOnly _) (.pure' ()))
    exact .ite' (.bind' (.throw' rfl) hpayload) (hpayload ())
  exact .ite' (.seq' (.field' Reading.u16_failsOnly _ _) (hrest ())) (hrest ())

/-- The acknowledgment reader fails only with a body fault. -/
theorem readAck_failsOnly (k : PacketKind) (h : FixedHeader) : FailsOnly (·.bodyFault) (readAck k h) := by
  unfold readAck
  refine .seq' (.update' _) <| .seq' (expectKind_failsOnly h k) ?_
  extract_lets field lengthChecked
  have hfield : ∀ u, FailsOnly (·.bodyFault) (field u) := fun _ =>
    .seq' (.field' Reading.u16_failsOnly _ _) (.pure' ())
  have hlength : ∀ u, FailsOnly (·.bodyFault) (lengthChecked u) := fun _ =>
    .ite' (.bind' (.throw' rfl) hfield) (hfield ())
  exact .ite' (.bind' (.throw' rfl) hlength) (hlength ())

/-- The reader of a packet without a body fails only with a decode fault. -/
theorem readEmpty_failsOnly {P : Type} (k : PacketKind) (h : FixedHeader) :
    FailsOnly (·.bodyFault) (readEmpty k h : Filling P Unit) := by
  unfold readEmpty
  refine .seq' (expectKind_failsOnly h k) ?_
  extract_lets lengthChecked
  have hlength : ∀ u, FailsOnly (·.bodyFault) (lengthChecked u) := fun _ =>
    .ite' (.throw' rfl) (.pure' ())
  exact .ite' (.bind' (.throw' rfl) hlength) (hlength ())

/-- Reading requested subscriptions fails only with a body fault, whatever the fuel. -/
theorem Subscribe.readEntries_failsOnly (rl start fuel : Nat) :
    FailsOnly (·.bodyFault) (Subscribe.readEntries rl start fuel) := by
  induction fuel with
  | zero => exact .pure' ()
  | succ fuel ih =>
    unfold Subscribe.readEntries
    refine .bind' .unread' fun left => .ite' (.bind' (.read' Reading.text_failsOnly) fun f =>
      .bind' (.read' Reading.byte_failsOnly) fun q => ?_) (.pure' ())
    extract_lets append
    have happend : ∀ u, FailsOnly (·.bodyFault) (append u) := fun _ => .seq' (.update' _) ih
    exact .ite' (.bind' (.throw' rfl) happend) (happend ())

/-- The SUBSCRIBE body reader fails only with a body fault. -/
theorem Subscribe.readBody_failsOnly (h : FixedHeader) :
    FailsOnly (·.bodyFault) (Subscribe.readBody h) := by
  unfold Subscribe.readBody
  refine .seq' (expectKind_failsOnly h _) <| .seq' (expectFlags_failsOnly h) <|
    .bind' .unread' fun start => .bind' (.read' Reading.u16_failsOnly) fun _ =>
    .seq' (.update' _) <| .seq' (Subscribe.readEntries_failsOnly _ _ _) <|
    .bind' .current' fun _ => .ite' (.throw' rfl) (.pure' ())

/-- Reading topic filters fails only with a body fault, whatever the fuel. -/
theorem Unsubscribe.readEntries_failsOnly (rl start fuel : Nat) :
    FailsOnly (·.bodyFault) (Unsubscribe.readEntries rl start fuel) := by
  induction fuel with
  | zero => exact .pure' ()
  | succ fuel ih =>
    unfold Unsubscribe.readEntries
    exact .bind' .unread' fun _ => .ite' (.bind' (.read' Reading.text_failsOnly) fun _ =>
      .seq' (.update' _) ih) (.pure' ())

/-- The UNSUBSCRIBE body reader fails only with a body fault. -/
theorem Unsubscribe.readBody_failsOnly (h : FixedHeader) :
    FailsOnly (·.bodyFault) (Unsubscribe.readBody h) := by
  unfold Unsubscribe.readBody
  refine .seq' (expectKind_failsOnly h _) <| .seq' (expectFlags_failsOnly h) <|
    .bind' .unread' fun start => .bind' (.read' Reading.u16_failsOnly) fun _ =>
    .seq' (.update' _) <| .seq' (Unsubscribe.readEntries_failsOnly _ _ _) <|
    .bind' .current' fun _ => .ite' (.throw' rfl) (.pure' ())

/-- The SUBACK body reader fails only with a body fault. -/
theorem Suback.readBody_failsOnly (h : FixedHeader) : FailsOnly (·.bodyFault) (Suback.readBody h) := by
  unfold Suback.readBody
  refine .seq' (expectKind_failsOnly h _) <| .seq' (expectFlags_failsOnly h) ?_
  extract_lets codes
  have hcodes : ∀ u, FailsOnly (·.bodyFault) (codes u) := by
    intro _
    refine .bind' (.read' Reading.u16_failsOnly) fun _ => .seq' (.update' _) <|
      .bind' (.read' (Reading.bytes_failsOnly _)) fun _ => ?_
    extract_lets good
    exact .seq' (.update' _) (.ite' (.throw' rfl) (.pure' ()))
  exact .ite' (.bind' (.throw' rfl) hcodes) (hcodes ())

/-- Every body reader fails only with a body fault. -/
theorem Packet.readBody_failsOnly (h : FixedHeader) (target : Packet) :
    FailsOnly (·.bodyFault) (Packet.readBody h target) := by
  cases target <;> unfold Packet.readBody
  case connect => exact .focus' (Connect.readBody_failsOnly h)
  case connack => exact .focus' (Connack.readBody_failsOnly h)
  case publish => exact .focus' (Publish.readBody_failsOnly h)
  case puback | pubrec | pubrel | pubcomp | unsuback => exact .focus' (readAck_failsOnly _ h)
  case subscribe => exact .focus' (Subscribe.readBody_failsOnly h)
  case suback => exact .focus' (Suback.readBody_failsOnly h)
  case unsubscribe => exact .focus' (Unsubscribe.readBody_failsOnly h)
  case pingreq | pingresp | disconnect => exact readEmpty_failsOnly _ h



/-! ## Whole bodies -/

/-- A failure recognised as a decode error, and neither as a failed read nor as the end of the
stream. -/
def Failure.DecodeFault (e : Failure) : Prop :=
  e.is .decode = true ∧ e.is .readFailed = false ∧ e.is .endOfStream = false ∧
    e.is .unexpectedEnd = false

instance (e : Failure) : Decidable e.DecodeFault := inferInstanceAs (Decidable (_ ∧ _))

/-- A body fault, with the end of the stream read as a malformed body, is a decode fault. -/
theorem Failure.inBody_decodeFault {e : Failure} (h : e.bodyFault = true) : e.inBody.DecodeFault := by
  cases e with
  | of c =>
    revert h
    cases c <;> decide
  | _ => simp [bodyFault] at h

/-- A body that cannot be read whole, because a field fails or because bytes are left over, is
a decode fault. -/
theorem Packet.readFrame_decodeFault {h : FixedHeader} {target : Packet} {body : Bytes}
    {e : Failure} {n : Nat} (hr : Packet.readFrame h target body = .error (e, n)) :
    e.DecodeFault := by
  simp only [Packet.readFrame, Packet.readBodyFrom] at hr
  cases hrun : Packet.readBody h target (body, target) with
  | ok u st =>
    obtain ⟨r, p⟩ := st
    simp only [hrun] at hr
    -- the body was read: the only fault left is bytes left over
    split at hr
    · cases hr
      decide
    · cases hr
  | error f st =>
    obtain ⟨r, p⟩ := st
    simp only [hrun, Except.error.injEq, Prod.mk.injEq] at hr
    rw [← hr.1]
    exact Failure.inBody_decodeFault ((Packet.readBody_failsOnly h target).fails _ _ _ hrun)

end Mqtt
