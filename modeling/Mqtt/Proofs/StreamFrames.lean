import Mqtt.Proofs.Faults
import Mqtt.Proofs.Wire
import Mqtt.Stream
/-! # Frames on a stream

A stream of frames, each a first byte that names a kind, a remaining length spelled in at most
four bytes and that many body bytes, is read one frame per call through a buffer of fixed size.
Each call stops exactly at the end of its frame (`Frame.answer_packetInto`), so a frame that is
too large for the buffer, or whose body does not decode, leaves the frames after it aligned
(`readPacketsInto_frames`).

A frame that fits is read as its body decodes, and a body that does not decode is a decode
fault, never a failed read or the end of the stream. A frame that does not fit is skipped whole
and reported as too short a buffer. The count of bytes reported differs by path: a skipped frame
is counted as read, a frame that fits by the header's own size and the body. The two agree
exactly when the remaining length is spelled in the fewest bytes (`Frame.total_eq_length_iff`);
a length of zero spelled `80 00` is three bytes counted as two
(`readPacketsInto_longSpelling_used`).
-/

namespace Mqtt

/-- A frame on a stream: a first byte whose code names a kind, a remaining length spelled in at
most four bytes, and exactly that many bytes of body, which may be anything. -/
structure Frame where
  first : UInt8
  lengthBytes : Bytes
  body : Bytes
  names_kind : (FixedHeader.ofFirstByte first).kind?.isSome
  spells_length : LengthSpelling lengthBytes body.length
  short_length : lengthBytes.length ≤ 4

namespace Frame

/-- The bytes of a frame. -/
def bytes (f : Frame) : Bytes := f.first :: f.lengthBytes ++ f.body

/-- The header a frame's first bytes spell. -/
def header (f : Frame) : FixedHeader :=
  { FixedHeader.ofFirstByte f.first with remainingLength := f.body.length }

/-- The size of a frame as the header's own size and the body length give it: the first byte, the
shortest spelling of the remaining length, and the body. -/
def total (f : Frame) : Nat := f.header.size + f.body.length

/-- What the body of a frame reads as, into the empty packet of the header's kind. -/
def decoded (f : Frame) : Except (Failure × Nat) Packet :=
  Packet.readFrame f.header (Packet.empty (f.header.kind?.getD .connect)) f.body

/-- Frames one after the other. -/
def stream : List Frame → Bytes
  | [] => []
  | f :: fs => f.bytes ++ stream fs

/-- The header of a frame is read from its first bytes, whatever follows them. -/
theorem readFrom_bytes (f : Frame) (rest : Bytes) :
    FixedHeader.readFrom (f.bytes ++ rest) = (f.header, f.body ++ rest, none) := by
  have hread := FixedHeader.read_spelling f.names_kind f.spells_length f.short_length
    (f.body ++ rest) default
  simp only [bytes, List.cons_append, List.append_assoc] at hread ⊢
  simp only [FixedHeader.readFrom, hread, header]

/-- The size the reader reports is the frame's length exactly when the remaining length is
spelled in the fewest bytes. -/
theorem total_eq_length_iff (f : Frame) :
    f.total = f.bytes.length ↔ f.lengthBytes.length = Field.lengthSize f.body.length := by
  simp only [total, header, FixedHeader.size, bytes, List.cons_append, List.length_cons,
    List.length_append]
  omega

/-- What reading a frame through a buffer of `cap` bytes answers, when `after` follows the frame:
the stream is left at `after`; a frame whose total does not fit the buffer is skipped whole and
reported as too short a buffer; a frame that fits is counted by its total and reads as its
body decodes, any failure being a decode fault. -/
structure Answer (cap : ReadBuffer) (f : Frame) (after : Bytes) (r : StreamRead) : Prop where
  rest : r.rest = after
  used : r.used = if f.total ≤ cap.size then f.total else f.bytes.length
  tooLarge : ¬ f.total ≤ cap.size → ∃ t, r.result = .error (.detail .bufferTooShort t)
  decoded : f.total ≤ cap.size → r.result.toOption = f.decoded.toOption
  faults : f.total ≤ cap.size → ∀ e, r.result = .error e → e.DecodeFault

/-- Reading one frame through a buffer answers it, whatever follows it. -/
theorem answer_packetInto (cap : ReadBuffer) (f : Frame) (rest : Bytes) :
    f.Answer cap rest (StreamRead.packetInto (f.bytes ++ rest) cap) := by
  have hlen : (f.bytes ++ rest).length - (f.body ++ rest).length = 1 + f.lengthBytes.length := by
    simp only [bytes, List.cons_append, List.length_cons, List.length_append]
    omega
  have hfull : ¬ f.header.remainingLength > (f.body ++ rest).length := by
    simp [header]
  have htake : (f.body ++ rest).take f.header.remainingLength = f.body := by simp [header]
  have hdrop : (f.body ++ rest).drop f.header.remainingLength = rest := by simp [header]
  by_cases hfits : f.total ≤ cap.size
  · -- the frame fits: its body is read and decoded
    have hnot : ¬ f.header.size + f.header.remainingLength > cap.size := by
      simp only [total, header] at hfits ⊢
      omega
    simp only [StreamRead.packetInto, readFrom_bytes, hlen, hnot, hfull, if_false, htake, hdrop]
    cases hdec : f.decoded with
    | ok p =>
      have hframe : Packet.readFrame f.header (Packet.empty (f.header.kind?.getD .connect)) f.body =
          .ok p := hdec
      simp only [hframe]
      exact ⟨rfl, by rw [if_pos hfits]; rfl, fun h => absurd hfits h, fun _ => by rw [hdec]; rfl,
        fun _ _ h => nomatch h⟩
    | error en =>
      obtain ⟨e, n⟩ := en
      have hframe : Packet.readFrame f.header (Packet.empty (f.header.kind?.getD .connect)) f.body =
          .error (e, n) := hdec
      simp only [hframe]
      refine ⟨rfl, by rw [if_pos hfits]; rfl, fun h => absurd hfits h, fun _ => by rw [hdec]; rfl, ?_⟩
      rintro - e' ⟨⟩
      exact Packet.readFrame_decodeFault hframe
  · -- the frame does not fit: it is skipped whole
    have hover : f.header.size + f.header.remainingLength > cap.size := by
      simp only [total, header] at hfits ⊢
      omega
    simp only [StreamRead.packetInto, readFrom_bytes, hlen, hover, hfull, if_true, if_false, hdrop]
    refine ⟨rfl, ?_, fun _ => ⟨_, rfl⟩, fun h => absurd h hfits, fun h => absurd h hfits⟩
    simp only [hfits, if_false, bytes, header, List.cons_append, List.length_cons, List.length_append]
    omega

/-- `Answers cap fs rs`: the reads `rs` answer the frames `fs` one by one, each leaving the
stream at the frames after it. -/
inductive Answers (cap : ReadBuffer) : List Frame → List StreamRead → Prop
  | nil : Answers cap [] []
  | cons {f : Frame} {fs : List Frame} {r : StreamRead} {rs : List StreamRead} :
      f.Answer cap (stream fs) r → Answers cap fs rs → Answers cap (f :: fs) (r :: rs)

end Frame

/-- Reading frames one after another through a buffer answers each of them in turn: every read
stops at the end of its frame, whatever the frames and the buffer, so one frame that is too
large or that does not decode leaves the frames after it to be read as they are. -/
theorem readPacketsInto_frames (cap : ReadBuffer) (fs : List Frame) (count : Nat)
    (hcount : fs.length ≤ count) :
    Frame.Answers cap fs (readPacketsInto cap count (Frame.stream fs)) := by
  induction fs generalizing count with
  | nil =>
    cases count with
    | zero => exact .nil
    | succ count => exact .nil
  | cons f fs ih =>
    obtain ⟨count, rfl⟩ : ∃ c, count = c + 1 := ⟨count - 1, by simp at hcount; omega⟩
    have hstep := Frame.answer_packetInto cap f (Frame.stream fs)
    have hnonempty : (Frame.stream (f :: fs)).isEmpty = false := by
      simp [Frame.stream, Frame.bytes]
    simp only [readPacketsInto, hnonempty, Bool.false_eq_true, if_false]
    refine .cons (by simpa [Frame.stream] using hstep) ?_
    rw [show (StreamRead.packetInto (Frame.stream (f :: fs)) cap).rest = Frame.stream fs from hstep.rest]
    exact ih count (by simp at hcount; omega)

/-- A PINGREQ frame whose remaining length, zero, is spelled in two bytes, read through a
buffer of 1024 bytes, is answered as the frames' theorem says. -/
theorem readPacketsInto_frames_longSpelling :
    [(⟨0xC0, [0x80, 0x00], [], by decide, .group (by decide) (.last (by decide)), by decide⟩ :
      Frame)].length ≤ 64 ∧
    Frame.Answers 1024 [⟨0xC0, [0x80, 0x00], [], by decide, .group (by decide) (.last (by decide)),
      by decide⟩] (readPacketsInto 1024 64 (Frame.stream [⟨0xC0, [0x80, 0x00], [], by decide,
        .group (by decide) (.last (by decide)), by decide⟩])) :=
  ⟨by decide, readPacketsInto_frames 1024 _ 64 (by decide)⟩

/-- That frame is three bytes long, and the reader reports two. -/
theorem readPacketsInto_longSpelling_used :
    (readPacketsInto 1024 64 [0xC0, 0x80, 0x00]).map (fun r => (r.result.toOption, r.used, r.rest)) =
      [(some .pingreq, 2, [])] := by
  decide

end Mqtt
