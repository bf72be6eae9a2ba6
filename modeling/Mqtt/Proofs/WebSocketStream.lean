import Mqtt.WebSocket.Session
/-! # The reads of a WebSocket connection form a byte stream

Reads return the payloads of the binary messages received, in order and back to back, across
message boundaries and timed-out reads. What a reader keeps of the stream (`Reader.Keeps`)
says where every payload byte is: returned by an earlier read, pending in the reader, or in a
delivery not yet taken; that the failure ending the stream is taken only after every message,
with nothing pending; and that every earlier read that failed either timed out or met that
failure. Taking one delivery keeps it (`Keeps.take_message`, `Keeps.take_failure`), so a read
does (`Keeps.read`) and so does every run of reads (`Keeps.run`).

From it, `reads_faithful`: the bytes returned are a prefix of the payloads, all of them come
before the failure, a read returns bytes whenever some are pending or have arrived before its
deadline, and the failure is returned by a read that finds every byte returned and the failure
arrived before its deadline, and by every read after one that returned it. A read whose
deadline has already passed looks at no delivery: until the failure has been taken it times out
even with every byte returned (`expired_reads_miss_close`).
-/

namespace Mqtt

namespace WebSocket

/-- The payload bytes a delivery carries; a failure carries none. -/
def Delivery.payload : Delivery → Bytes
  | .message d => d
  | .failure .. => []

/-- The deliveries of binary messages with these payloads, in order, then the failure that ends
the stream, when it ends. -/
def Delivery.stream (payloads : List Bytes) :
    Option (Failure × Option Nat × Option Nat) → List Delivery
  | none => payloads.map .message
  | some (f, c, a) => payloads.map .message ++ [.failure f c a]

/-- A read: the size of its buffer, the milliseconds left before its deadline when it is made
(none or fewer once the deadline has passed), and how many deliveries have arrived by then. -/
structure ReadCall where
  size : Nat
  ms : Int
  arrived : Nat
  deriving DecidableEq, Repr

/-- Plays reads one after another: their results and the reader after them. Each read sees the
deliveries that have arrived by then. -/
def Reader.reads (items : List Delivery) :
    Reader → List ReadCall → List (Except (Failure × Option Nat) Bytes) × Reader
  | r, [] => ([], r)
  | r, c :: cs =>
    let next := Reader.read (items.take c.arrived) c.ms r c.size
    let rest := Reader.reads items next.2 cs
    (next.1 :: rest.1, rest.2)

/-- The bytes that successful reads returned, back to back. -/
def returned (results : List (Except (Failure × Option Nat) Bytes)) : Bytes :=
  (results.filterMap Except.toOption).flatten

@[simp] theorem returned_nil : returned [] = [] := rfl

@[simp] theorem returned_append (xs ys : List (Except (Failure × Option Nat) Bytes)) :
    returned (xs ++ ys) = returned xs ++ returned ys := by
  simp [returned]

@[simp] theorem returned_ok (b : Bytes) : returned [.ok b] = b := by
  simp [returned, Except.toOption]

@[simp] theorem returned_error (e : Failure × Option Nat) : returned [.error e] = [] := rfl

/-- The payload from a delivery on is its own payload, then the payload after it. -/
theorem Delivery.payload_drop {l : List Delivery} {j : Nat} {d : Delivery} (h : l[j]? = some d) :
    (l.drop j).flatMap Delivery.payload = d.payload ++ (l.drop (j + 1)).flatMap Delivery.payload := by
  obtain ⟨hj, rfl⟩ := List.getElem?_eq_some_iff.1 h
  rw [List.drop_eq_getElem_cons hj, List.flatMap_cons]

section Stream

variable {payloads : List Bytes} {stop : Option (Failure × Option Nat × Option Nat)}

@[simp] theorem Delivery.payload_stream :
    (Delivery.stream payloads stop).flatMap Delivery.payload = payloads.flatten := by
  rcases stop with _ | ⟨f, c, a⟩ <;>
    simp [Delivery.stream, Delivery.payload, List.flatMap_map]

theorem Delivery.length_stream_le : (Delivery.stream payloads stop).length ≤ payloads.length + 1 := by
  rcases stop with _ | ⟨f, c, a⟩ <;> simp [Delivery.stream]

theorem Delivery.length_stream_some {s : Failure × Option Nat × Option Nat} :
    (Delivery.stream payloads (some s)).length = payloads.length + 1 := by
  obtain ⟨f, c, a⟩ := s
  simp [Delivery.stream]

theorem Delivery.stream_getElem?_lt {j : Nat} (hj : j < payloads.length) :
    (Delivery.stream payloads stop)[j]? = some (.message payloads[j]) := by
  rcases stop with _ | ⟨f, c, a⟩ <;> simp [Delivery.stream, List.getElem?_append_left, hj]

theorem Delivery.stream_getElem?_length {f : Failure} {c a : Option Nat} :
    (Delivery.stream payloads (some (f, c, a)))[payloads.length]? = some (.failure f c a) := by
  simp [Delivery.stream]

/-- Messages stand before the failure. -/
theorem Delivery.stream_message {j : Nat} {d : Bytes}
    (h : (Delivery.stream payloads stop)[j]? = some (.message d)) : j < payloads.length := by
  rcases Nat.lt_or_ge j payloads.length with hj | hj
  · exact hj
  · rcases stop with _ | ⟨f, c, a⟩ <;>
      simp [Delivery.stream, List.getElem?_append_right, hj] at h
    grind

/-- The failure stands last, and is the one that ends the stream. -/
theorem Delivery.stream_failure {j : Nat} {f : Failure} {c a : Option Nat}
    (h : (Delivery.stream payloads stop)[j]? = some (.failure f c a)) :
    j = payloads.length ∧ stop = some (f, c, a) := by
  rcases Nat.lt_or_ge j payloads.length with hj | hj
  · simp [Delivery.stream_getElem?_lt hj] at h
  · rcases stop with _ | ⟨f', c', a'⟩ <;>
      simp [Delivery.stream, List.getElem?_append_right, hj] at h
    grind

/-- Nothing is left past the failure, nor past the deliveries that have arrived. -/
theorem Delivery.drop_take_stream {n : Nat} :
    ((Delivery.stream payloads stop).take n).drop (payloads.length + 1) = [] := by
  have : (Delivery.stream payloads stop).length ≤ payloads.length + 1 := Delivery.length_stream_le
  exact List.drop_eq_nil_of_le (by simp; omega)

theorem Delivery.drop_stream : (Delivery.stream payloads stop).drop (payloads.length + 1) = [] :=
  List.drop_eq_nil_of_le Delivery.length_stream_le

end Stream

section Fill

/-! One equation for each way `Reader.fill` can go; later proofs cite these and never open it. -/

variable {items : List Delivery} {ms : Int} {fuel : Nat} {r : Reader}

theorem Reader.fill_pending (h : r.pending ≠ []) : Reader.fill items ms (fuel + 1) r = (none, r) := by
  simp [Reader.fill, h]

theorem Reader.fill_ended {e : Failure × Option Nat} (hp : r.pending = []) (he : r.ended = some e) :
    Reader.fill items ms (fuel + 1) r = (some e, r) := by
  simp [Reader.fill, hp, he]

/-- A read whose deadline has passed takes no delivery. -/
theorem Reader.fill_expired (hp : r.pending = []) (he : r.ended = none) (hms : ms ≤ 0) :
    Reader.fill items ms fuel r = (some (timedOut, none), r) := by
  cases fuel <;> simp [Reader.fill, hp, he, hms]

theorem Reader.fill_unarrived (hp : r.pending = []) (he : r.ended = none)
    (hd : items[r.taken]? = none) : Reader.fill items ms fuel r = (some (timedOut, none), r) := by
  cases fuel <;> simp [Reader.fill, hp, he, hd]

theorem Reader.fill_message {d : Bytes} (hp : r.pending = []) (he : r.ended = none) (hms : 0 < ms)
    (hd : items[r.taken]? = some (.message d)) :
    Reader.fill items ms (fuel + 1) r =
      Reader.fill items ms fuel { r with pending := d, taken := r.taken + 1 } := by
  simp [Reader.fill, hp, he, hd, Int.not_le.2 hms]

theorem Reader.fill_failure {f : Failure} {c a : Option Nat} (hp : r.pending = [])
    (he : r.ended = none) (hms : 0 < ms) (hd : items[r.taken]? = some (.failure f c a)) :
    Reader.fill items ms (fuel + 1) r =
      (some (f, c), { r with ended := some (f, c), taken := r.taken + 1 }) := by
  simp [Reader.fill, hp, he, hd, Int.not_le.2 hms]

/-- Filling stops with bytes pending, or fails by timing out or with the failure that ended
the stream. -/
theorem Reader.fill_outcome (items : List Delivery) (ms : Int) (fuel : Nat) (r : Reader) :
    ((Reader.fill items ms fuel r).1 = none → (Reader.fill items ms fuel r).2.pending ≠ []) ∧
    (∀ e, (Reader.fill items ms fuel r).1 = some e →
      e = (timedOut, none) ∨ (Reader.fill items ms fuel r).2.ended = some e) := by
  fun_induction Reader.fill items ms fuel r <;> simp_all

end Fill

section Read

variable {vis : List Delivery} {ms : Int} {r r' : Reader} {size : Nat}

theorem Reader.read_of_fill_none (hf : Reader.fill vis ms (vis.length + 1) r = (none, r')) :
    Reader.read vis ms r size =
      (.ok (r'.pending.take size), { r' with pending := r'.pending.drop size }) := by
  simp [Reader.read, hf]

theorem Reader.read_of_fill_some {e : Failure × Option Nat}
    (hf : Reader.fill vis ms (vis.length + 1) r = (some e, r')) :
    Reader.read vis ms r size = (.error e, r') := by
  simp [Reader.read, hf]

/-- A read returns the bytes pending first. -/
theorem Reader.read_pending (h : r.pending ≠ []) :
    (Reader.read vis ms r size).1 = .ok (r.pending.take size) := by
  rw [Reader.read_of_fill_none (Reader.fill_pending h)]

/-- A read that succeeds returns at least one byte. -/
theorem Reader.read_ok_ne_nil {b : Bytes} (h : (Reader.read vis ms r size).1 = .ok b)
    (sized : 0 < size) : b ≠ [] := by
  have nonempty := (Reader.fill_outcome vis ms (vis.length + 1) r).1
  rcases hf : Reader.fill vis ms (vis.length + 1) r with ⟨_ | e, r'⟩
  · rw [Reader.read_of_fill_none hf] at h
    rw [hf] at nonempty
    obtain rfl := Except.ok.inj h
    simpa [List.take_eq_nil_iff, Nat.pos_iff_ne_zero.1 sized] using nonempty rfl
  · rw [Reader.read_of_fill_some hf] at h
    cases h

end Read

/-- What a reader keeps of a stream after reads with these results. -/
structure Reader.Keeps (payloads : List Bytes) (stop : Option (Failure × Option Nat × Option Nat))
    (results : List (Except (Failure × Option Nat) Bytes)) (r : Reader) : Prop where
  /-- Every payload byte is returned, pending or not yet taken, once and in order. -/
  conserved : returned results ++ r.pending ++
    ((Delivery.stream payloads stop).drop r.taken).flatMap Delivery.payload = payloads.flatten
  /-- While the stream is open, its failure has not been taken. -/
  taken_le : r.ended = none → r.taken ≤ payloads.length
  /-- A stream ends with its failure, taken after every message, with nothing pending. -/
  ended_stop : ∀ e, r.ended = some e →
    r.pending = [] ∧ r.taken = payloads.length + 1 ∧ ∃ a, stop = some (e.1, e.2, a)
  /-- A read failed by timing out, or with the failure that ended the stream. -/
  errors : ∀ e, Except.error e ∈ results → e = (timedOut, none) ∨ r.ended = some e

namespace Reader.Keeps

variable {payloads : List Bytes} {stop : Option (Failure × Option Nat × Option Nat)}
  {results : List (Except (Failure × Option Nat) Bytes)} {r : Reader}

theorem init : Reader.Keeps payloads stop [] {} where
  conserved := by simp
  taken_le _ := Nat.zero_le _
  ended_stop e h := by cases h
  errors e h := by cases h

/-- Once the stream has ended, every payload byte has been returned. -/
theorem returned_of_ended {e : Failure × Option Nat} (h : Reader.Keeps payloads stop results r)
    (he : r.ended = some e) : returned results = payloads.flatten := by
  obtain ⟨hp, ht, -⟩ := h.ended_stop e he
  simpa [hp, ht, Delivery.drop_stream] using h.conserved

theorem take_message {d : Bytes} (h : Reader.Keeps payloads stop results r)
    (hp : r.pending = []) (he : r.ended = none)
    (hd : (Delivery.stream payloads stop)[r.taken]? = some (.message d)) :
    Reader.Keeps payloads stop results { r with pending := d, taken := r.taken + 1 } where
  conserved := by
    have conserved := h.conserved
    rw [hp, Delivery.payload_drop hd] at conserved
    simpa [Delivery.payload] using conserved
  taken_le _ := Delivery.stream_message hd
  ended_stop e h' := by simp [he] at h'
  errors e he' := by simpa [he] using h.errors e he'

theorem take_failure {f : Failure} {c a : Option Nat} (h : Reader.Keeps payloads stop results r)
    (hp : r.pending = []) (he : r.ended = none)
    (hd : (Delivery.stream payloads stop)[r.taken]? = some (.failure f c a)) :
    Reader.Keeps payloads stop results { r with ended := some (f, c), taken := r.taken + 1 } where
  conserved := by
    have conserved := h.conserved
    rw [Delivery.payload_drop hd] at conserved
    simpa [Delivery.payload] using conserved
  taken_le h' := by cases h'
  ended_stop e h' := by
    obtain ⟨hj, hs⟩ := Delivery.stream_failure hd
    obtain rfl : (f, c) = e := Option.some.inj h'
    exact ⟨hp, by simp [hj], a, hs⟩
  errors e he' := .inl (by simpa [he] using h.errors e he')

/-- A delivery seen by a read has been delivered. -/
theorem getElem?_of_take {l : List Delivery} {n j : Nat} {d : Delivery}
    (h : (l.take n)[j]? = some d) : l[j]? = some d := by
  rw [List.getElem?_take] at h
  split at h
  · exact h
  · cases h

/-- Filling keeps the account, whatever has arrived and whatever the deadline. -/
theorem fill (h : Reader.Keeps payloads stop results r) (n : Nat) (ms : Int) (fuel : Nat) :
    Reader.Keeps payloads stop results
      (Reader.fill ((Delivery.stream payloads stop).take n) ms fuel r).2 := by
  induction fuel generalizing r with
  | zero => exact h
  | succ fuel ih =>
    by_cases hp : r.pending = []
    · cases he : r.ended with
      | some e => rw [Reader.fill_ended hp he]; exact h
      | none =>
        by_cases hms : ms ≤ 0
        · rw [Reader.fill_expired hp he hms]; exact h
        · have hms : 0 < ms := by omega
          -- the next delivery, if it has arrived
          cases hd : ((Delivery.stream payloads stop).take n)[r.taken]? with
          | none => rw [Reader.fill_unarrived hp he hd]; exact h
          | some d =>
            cases d with
            | message d =>
              rw [Reader.fill_message hp he hms hd]
              exact ih (h.take_message hp he (getElem?_of_take hd))
            | failure f c a =>
              rw [Reader.fill_failure hp he hms hd]
              exact h.take_failure hp he (getElem?_of_take hd)
    · rw [Reader.fill_pending hp]; exact h

/-- Returning bytes keeps the account. -/
theorem deliver (h : Reader.Keeps payloads stop results r) (size : Nat) :
    Reader.Keeps payloads stop (results ++ [.ok (r.pending.take size)])
      { r with pending := r.pending.drop size } where
  conserved := by simpa [List.append_assoc] using h.conserved
  taken_le := h.taken_le
  ended_stop e he := by
    obtain ⟨hp, rest⟩ := h.ended_stop e he
    exact ⟨by simp [hp], rest⟩
  errors e he := h.errors e (by simpa using he)

/-- Failing by timing out or with the failure that ended the stream keeps the account. -/
theorem fail {e : Failure × Option Nat} (h : Reader.Keeps payloads stop results r)
    (he : e = (timedOut, none) ∨ r.ended = some e) :
    Reader.Keeps payloads stop (results ++ [.error e]) r where
  conserved := by simpa using h.conserved
  taken_le := h.taken_le
  ended_stop := h.ended_stop
  errors e' he' := by
    rcases List.mem_append.1 he' with earlier | now
    · exact h.errors e' earlier
    · obtain rfl : e' = e := by simpa using now
      exact he

/-- A read keeps the account: the step of every run of reads. -/
theorem read (h : Reader.Keeps payloads stop results r) (n : Nat) (ms : Int) (size : Nat) :
    Reader.Keeps payloads stop
      (results ++ [(Reader.read ((Delivery.stream payloads stop).take n) ms r size).1])
      (Reader.read ((Delivery.stream payloads stop).take n) ms r size).2 := by
  have filled := h.fill n ms (((Delivery.stream payloads stop).take n).length + 1)
  have outcome := (Reader.fill_outcome ((Delivery.stream payloads stop).take n) ms
    (((Delivery.stream payloads stop).take n).length + 1) r).2
  rcases hf : Reader.fill ((Delivery.stream payloads stop).take n) ms
    (((Delivery.stream payloads stop).take n).length + 1) r with ⟨_ | e, r'⟩
  · rw [Reader.read_of_fill_none hf]
    rw [hf] at filled
    exact filled.deliver size
  · rw [Reader.read_of_fill_some hf]
    rw [hf] at filled outcome
    exact filled.fail (outcome e rfl)

/-- Every run of reads keeps the account. -/
theorem reads (h : Reader.Keeps payloads stop results r) (calls : List ReadCall) :
    Reader.Keeps payloads stop (results ++ (Reader.reads (Delivery.stream payloads stop) r calls).1)
      (Reader.reads (Delivery.stream payloads stop) r calls).2 := by
  induction calls generalizing results r with
  | nil => simpa [Reader.reads] using h
  | cons c cs ih =>
    simpa [Reader.reads, List.append_assoc] using ih (h.read c.arrived c.ms c.size)

theorem run (calls : List ReadCall) :
    Reader.Keeps payloads stop (Reader.reads (Delivery.stream payloads stop) {} calls).1
      (Reader.reads (Delivery.stream payloads stop) {} calls).2 := by
  simpa using init.reads calls

/-- Once the stream has ended, every read returns its failure and changes nothing. -/
theorem read_ended {e : Failure × Option Nat} {vis : List Delivery} {ms : Int} {size : Nat}
    (h : Reader.Keeps payloads stop results r) (he : r.ended = some e) :
    Reader.read vis ms r size = (.error e, r) :=
  Reader.read_of_fill_some (Reader.fill_ended (h.ended_stop e he).1 he)

/-- Before its deadline, filling takes deliveries until it finds bytes, when some have arrived
and not been taken. -/
theorem fill_progress {n : Nat} {ms : Int} (h : Reader.Keeps payloads stop results r)
    (hms : 0 < ms) (hp : r.pending = [])
    (arrived : (((Delivery.stream payloads stop).take n).drop r.taken).flatMap
      Delivery.payload ≠ [])
    {fuel : Nat} (hfuel : ((Delivery.stream payloads stop).take n).length < r.taken + fuel) :
    (Reader.fill ((Delivery.stream payloads stop).take n) ms fuel r).1 = none := by
  induction fuel generalizing r with
  | zero =>
    exact absurd (by rw [List.drop_eq_nil_of_le (by omega), List.flatMap_nil]) arrived
  | succ fuel ih =>
    cases he : r.ended with
    | some e =>
      -- an ended stream has nothing left to take
      obtain ⟨-, ht, -⟩ := h.ended_stop e he
      exact absurd (by rw [ht, Delivery.drop_take_stream, List.flatMap_nil]) arrived
    | none =>
      cases hd : ((Delivery.stream payloads stop).take n)[r.taken]? with
      | none =>
        have : ((Delivery.stream payloads stop).take n).length ≤ r.taken :=
          List.getElem?_eq_none_iff.1 hd
        exact absurd (by rw [List.drop_eq_nil_of_le this, List.flatMap_nil]) arrived
      | some d =>
        have inside : r.taken < ((Delivery.stream payloads stop).take n).length :=
          (List.getElem?_eq_some_iff.1 hd).1
        rw [Delivery.payload_drop hd] at arrived
        cases d with
        | message d =>
          rw [Reader.fill_message hp he hms hd]
          by_cases hd0 : d = []
          · -- an empty message: take the next one
            subst hd0
            exact ih (h.take_message hp he (getElem?_of_take hd)) rfl (by simpa [Delivery.payload] using arrived)
              (by simp only; omega)
          · obtain ⟨fuel, rfl⟩ : ∃ k, fuel = k + 1 := ⟨fuel - 1, by omega⟩
            rw [Reader.fill_pending hd0]
        | failure f c a =>
          -- the failure comes last, so nothing is left after it
          obtain ⟨ht, -⟩ := Delivery.stream_failure (getElem?_of_take hd)
          exact absurd (by rw [ht, Delivery.drop_take_stream]; rfl) arrived

/-- With every byte returned, nothing is pending and nothing is left to take. -/
theorem rest_of_returned (h : Reader.Keeps payloads stop results r)
    (all : returned results = payloads.flatten) :
    r.pending = [] ∧ ((Delivery.stream payloads stop).drop r.taken).flatMap Delivery.payload = [] := by
  have rest := h.conserved
  rwa [all, List.append_assoc, List.append_right_eq_self, List.append_eq_nil_iff] at rest

/-- Before its deadline, with every byte returned and the failure arrived, filling skips the
empty messages left and takes the failure. -/
theorem fill_terminal {f : Failure} {c a : Option Nat} {ms : Int}
    (h : Reader.Keeps payloads (some (f, c, a)) results r)
    (all : returned results = payloads.flatten) (hms : 0 < ms)
    {fuel : Nat} (hfuel : payloads.length ≤ r.taken + fuel) :
    (Reader.fill (Delivery.stream payloads (some (f, c, a))) ms (fuel + 1) r).1 = some (f, c) := by
  obtain ⟨hp, rest⟩ := h.rest_of_returned all
  cases he : r.ended with
  | some e =>
    obtain ⟨-, -, a', hs⟩ := h.ended_stop e he
    simp only [Option.some.injEq, Prod.mk.injEq] at hs
    rw [Reader.fill_ended hp he, hs.1, hs.2.1]
  | none =>
    -- the messages left are empty: take them one by one, up to the failure
    induction fuel generalizing r with
    | zero =>
      have ht : r.taken = payloads.length := by have := h.taken_le he; omega
      rw [Reader.fill_failure hp he hms (by rw [ht]; exact Delivery.stream_getElem?_length)]
    | succ fuel ih =>
      rcases Nat.lt_or_ge r.taken payloads.length with hlt | hge
      · have hd : (Delivery.stream payloads (some (f, c, a)))[r.taken]? =
            some (.message payloads[r.taken]) := Delivery.stream_getElem?_lt hlt
        rw [Delivery.payload_drop hd, List.append_eq_nil_iff] at rest
        rw [show payloads[r.taken] = [] from rest.1] at hd
        rw [Reader.fill_message hp he hms hd]
        exact ih (h.take_message hp he hd) (by simp only; omega) rfl rest.2 he
      · have ht : r.taken = payloads.length := by have := h.taken_le he; omega
        rw [Reader.fill_failure hp he hms (by rw [ht]; exact Delivery.stream_getElem?_length)]

/-- A read before its deadline returns bytes when some are pending or have arrived. -/
theorem read_progress {n : Nat} {ms : Int} {size : Nat} (h : Reader.Keeps payloads stop results r)
    (hms : 0 < ms)
    (arrived : (((Delivery.stream payloads stop).take n).drop r.taken).flatMap
      Delivery.payload ≠ [])
    (sized : 0 < size) :
    ∃ b, (Reader.read ((Delivery.stream payloads stop).take n) ms r size).1 = .ok b ∧ b ≠ [] := by
  suffices ∃ b, (Reader.read ((Delivery.stream payloads stop).take n) ms r size).1 = .ok b by
    obtain ⟨b, hb⟩ := this
    exact ⟨b, hb, Reader.read_ok_ne_nil hb sized⟩
  by_cases hp : r.pending = []
  · have filled := h.fill_progress hms hp arrived (show ((Delivery.stream payloads stop).take n).length <
      r.taken + (((Delivery.stream payloads stop).take n).length + 1) by omega)
    rcases hf : Reader.fill ((Delivery.stream payloads stop).take n) ms
      (((Delivery.stream payloads stop).take n).length + 1) r with ⟨_ | e, r'⟩
    · exact ⟨_, by rw [Reader.read_of_fill_none hf]⟩
    · rw [hf] at filled
      cases filled
  · exact ⟨_, Reader.read_pending hp⟩

/-- A read before its deadline, with every byte returned and the failure arrived, returns the
failure. -/
theorem read_terminal {f : Failure} {c a : Option Nat} {n : Nat} {ms : Int} {size : Nat}
    (h : Reader.Keeps payloads (some (f, c, a)) results r)
    (all : returned results = payloads.flatten) (hms : 0 < ms)
    (hn : (Delivery.stream payloads (some (f, c, a))).length ≤ n) :
    (Reader.read ((Delivery.stream payloads (some (f, c, a))).take n) ms r size).1 =
      .error (f, c) := by
  rw [List.take_of_length_le hn]
  have filled := h.fill_terminal all hms (show payloads.length ≤
    r.taken + (Delivery.stream payloads (some (f, c, a))).length by
      rw [Delivery.length_stream_some]; omega)
  rcases hf : Reader.fill (Delivery.stream payloads (some (f, c, a))) ms
    ((Delivery.stream payloads (some (f, c, a))).length + 1) r with ⟨_ | e, r'⟩
  · rw [hf] at filled
    cases filled
  · rw [hf] at filled
    rw [Reader.read_of_fill_some hf, Option.some.inj filled]

end Reader.Keeps

/-- The frames a server sends reach the reads as a stream: binary messages, then at most one
failure. -/
theorem deliveries_stream (frames : List ServerFrame) (drop : Bool) :
    ∃ payloads stop, deliveries frames drop = Delivery.stream payloads stop := by
  induction frames with
  | nil =>
    cases drop
    · exact ⟨[], none, rfl⟩
    · exact ⟨[], some (.plain (closeText 1006 "unexpected EOF"), some 1006, none), rfl⟩
  | cons frame rest ih =>
    obtain ⟨payloads, stop, h⟩ := ih
    cases frame with
    | binary d =>
      refine ⟨d :: payloads, stop, ?_⟩
      rcases stop with _ | ⟨f, c, a⟩ <;> simp [deliveries, Delivery.stream, h]
    | text d => exact ⟨[], some (.of .textFrame, none, none), rfl⟩
    | ping d => exact ⟨payloads, stop, h⟩
    | close code reason =>
      simp only [deliveries]
      split
      · exact ⟨[], some (_, _, _), rfl⟩
      · split
        · exact ⟨[], some (_, _, _), rfl⟩
        · exact ⟨[], some (_, _, _), rfl⟩

/-- Reads made one after another, all with the same deadline and with every delivery arrived,
are a run of reads. -/
theorem Reader.foldl_read (items : List Delivery) (ms : Int) (sizes : List Nat)
    (acc : List (Except (Failure × Option Nat) Bytes)) (r : Reader) :
    sizes.foldl (fun (acc : List (Except (Failure × Option Nat) Bytes) × Reader) size =>
        let (res, next) := Reader.read items ms acc.2 size
        (acc.1 ++ [res], next)) (acc, r) =
      (acc ++ (Reader.reads items r (sizes.map fun size => ⟨size, ms, items.length⟩)).1,
        (Reader.reads items r (sizes.map fun size => ⟨size, ms, items.length⟩)).2) := by
  induction sizes generalizing acc r with
  | nil => simp [Reader.reads]
  | cons size sizes ih =>
    rcases h : Reader.read items ms r size with ⟨res, next⟩
    simp [Reader.reads, h, ih]

/-- The reads of a scripted session are a run of reads over the stream of its deliveries, each
with the session's deadline and every delivery arrived. -/
theorem SessionScript.reads_stream (s : SessionScript) :
    ∃ payloads stop, s.run.reads = (Reader.reads (Delivery.stream payloads stop) {}
      (s.reads.map fun size => ⟨size, s.readTimeoutMs, (Delivery.stream payloads stop).length⟩)).1 := by
  obtain ⟨payloads, stop, h⟩ := deliveries_stream s.frames s.serverDrop
  by_cases fails : (s.writeDeadlineMs.any (· ≤ 0) && !s.writes.isEmpty) = true
  · exact ⟨[], none, by simp [SessionScript.run, fails, Reader.foldl_read, Delivery.stream]⟩
  · exact ⟨payloads, stop, by simp [SessionScript.run, fails, Reader.foldl_read, h]⟩

/-- The reads of a connection form a byte stream. Whatever reads came before, a read returns the
next bytes of the payloads, at least one when some are pending or have arrived before its
deadline; the failure that ends the stream comes after every byte, from a read before its
deadline once it has arrived, and then from every later read. -/
theorem reads_faithful (payloads : List Bytes) (stop : Option (Failure × Option Nat × Option Nat))
    (pre : List ReadCall) (c : ReadCall) (sized : 0 < c.size) :
    let items := Delivery.stream payloads stop
    let before := Reader.reads items {} pre
    let now := Reader.read (items.take c.arrived) c.ms before.2 c.size
    returned before.1 ++ before.2.pending ++ (items.drop before.2.taken).flatMap Delivery.payload =
        payloads.flatten ∧
      returned (before.1 ++ [now.1]) <+: payloads.flatten ∧
      (∀ b, now.1 = .ok b → b ≠ []) ∧
      (before.2.pending ≠ [] → now.1 = .ok (before.2.pending.take c.size)) ∧
      (0 < c.ms → ((items.take c.arrived).drop before.2.taken).flatMap Delivery.payload ≠ [] →
        ∃ b, now.1 = .ok b ∧ b ≠ []) ∧
      (∀ f code a, stop = some (f, code, a) → returned before.1 = payloads.flatten → 0 < c.ms →
        items.length ≤ c.arrived → now.1 = .error (f, code)) ∧
      (∀ f code a, stop = some (f, code, a) → (f, code) ≠ (timedOut, none) →
        (Except.error (f, code) ∈ before.1 → now.1 = .error (f, code)) ∧
        (now.1 = .error (f, code) → returned before.1 = payloads.flatten)) := by
  intro items before now
  have kept : Reader.Keeps payloads stop before.1 before.2 := Reader.Keeps.run pre
  have next : Reader.Keeps payloads stop (before.1 ++ [now.1]) now.2 :=
    kept.read c.arrived c.ms c.size
  refine ⟨kept.conserved, ⟨_, by simpa [List.append_assoc] using next.conserved⟩,
    fun b hb => Reader.read_ok_ne_nil hb sized, Reader.read_pending,
    fun hms arrived => kept.read_progress hms arrived sized, ?terminal, ?sticky⟩
  case terminal =>
    rintro f code a rfl all hms hn
    exact kept.read_terminal all hms hn
  case sticky =>
    intro f code a _ hne
    refine ⟨fun earlier => ?_, fun hnow => ?_⟩
    · rcases kept.errors _ earlier with timeout | ended
      · exact absurd timeout hne
      · exact congrArg Prod.fst (kept.read_ended ended)
    · rcases next.errors (f, code) (by simp [hnow]) with timeout | ended
      · exact absurd timeout hne
      · simpa [hnow] using next.returned_of_ended ended

/-- Three messages, one of them empty, then a close: a read of one byte, a read past its deadline
that still returns the pending byte, a read that skips the empty message, and a read that meets
the close. -/
theorem reads_faithful_closeAfterThree :
    let payloads : List Bytes := [[1, 2], [], [3]]
    let stop : Option (Failure × Option Nat × Option Nat) :=
      some (.plain "websocket: close 1000 (normal)", some 1000, some 1000)
    let pre : List ReadCall := [⟨1, 100, 1⟩, ⟨4, 0, 4⟩, ⟨4, 100, 4⟩]
    let c : ReadCall := ⟨4, 100, 4⟩
    let items := Delivery.stream payloads stop
    let before := Reader.reads items {} pre
    let now := Reader.read (items.take c.arrived) c.ms before.2 c.size
    0 < c.size ∧
      (returned before.1 ++ before.2.pending ++ (items.drop before.2.taken).flatMap Delivery.payload =
          payloads.flatten ∧
        returned (before.1 ++ [now.1]) <+: payloads.flatten ∧
        (∀ b, now.1 = .ok b → b ≠ []) ∧
        (before.2.pending ≠ [] → now.1 = .ok (before.2.pending.take c.size)) ∧
        (0 < c.ms → ((items.take c.arrived).drop before.2.taken).flatMap Delivery.payload ≠ [] →
          ∃ b, now.1 = .ok b ∧ b ≠ []) ∧
        (∀ f code a, stop = some (f, code, a) → returned before.1 = payloads.flatten → 0 < c.ms →
          items.length ≤ c.arrived → now.1 = .error (f, code)) ∧
        (∀ f code a, stop = some (f, code, a) → (f, code) ≠ (timedOut, none) →
          (Except.error (f, code) ∈ before.1 → now.1 = .error (f, code)) ∧
          (now.1 = .error (f, code) → returned before.1 = payloads.flatten))) :=
  ⟨by decide, reads_faithful _ _ _ _ (by decide)⟩

/-- A read whose deadline has passed takes no delivery, not even the close frame that ends a
stream with no byte in it: both reads of this session time out. -/
theorem expired_reads_miss_close :
    (SessionScript.run { frames := [.close 1000 ""], reads := [1, 1], readTimeoutMs := -50 }).reads =
      [.error (timedOut, none), .error (timedOut, none)] := by
  rfl

end WebSocket

end Mqtt
