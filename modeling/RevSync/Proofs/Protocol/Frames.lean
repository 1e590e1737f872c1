import RevSync.Service.Wire
import RevSync.Proofs.Protocol.Encoding
import Mathlib

/-! Frames written one after another read back as the messages written, in order, under any codec
that round-trips serde's data model. Reading stops where the bytes run out: with fewer bytes left
than a length takes the stream ends cleanly, and once a frame's length has been read, a payload
cut short is an end-of-stream error. A connection hands on the messages, then how reading ended,
and reports itself closed on every later receive. -/

namespace RevSync

/-- Bytes stand where they were put between two others. -/
theorem Embeds.middle (pre w post : ByteArray) : Embeds (pre ++ w ++ post) pre.size w where
  le_size := by simp only [ByteArray.size_append]; omega
  getElem_eq i hi := by
    rw [ByteArray.getElem_append_left (by simp only [ByteArray.size_append]; omega),
      ByteArray.getElem_append_right (by omega)]
    simp only [Nat.add_sub_cancel_left]

namespace Frame

variable (c : Serde.Codec)

/-- The four big-endian bytes that give a payload's length. -/
def header (payload : ByteArray) : ByteArray := ⟨(Head.bigEndianBytes payload.size 4).toArray⟩

/-- The frame of a message: the length of its encoding, then the encoding. -/
def frameOf (m : Message) : ByteArray := header (m.encode c) ++ m.encode c

/-- The frames of several messages, one after another. -/
def frames : List Message → ByteArray
  | [] => .empty
  | m :: ms => frameOf c m ++ frames ms

@[simp] theorem size_header (payload : ByteArray) : (header payload).size = 4 := by
  simp [header, size_mk_toArray, Head.length_bigEndianBytes]

theorem size_frameOf (m : Message) : (frameOf c m).size = 4 + (m.encode c).size := by
  simp [frameOf, ByteArray.size_append]

/-! ### Writing -/

theorem encode_eq (m : Message) :
    encode c m = if maxFrameLen < (m.encode c).size then
      .error (.frameTooLarge (m.encode c).size maxFrameLen) else .ok (frameOf c m) := rfl

theorem encode_eq_ok {m : Message} (h : (m.encode c).size ≤ maxFrameLen) :
    encode c m = .ok (frameOf c m) := by
  rw [encode_eq, if_neg (Nat.not_lt.2 h)]

theorem encode_eq_ok_iff {m : Message} {f : ByteArray} :
    encode c m = .ok f ↔ (m.encode c).size ≤ maxFrameLen ∧ f = frameOf c m := by
  rw [encode_eq]
  split_ifs with h
  · simp [Nat.not_le.2 h]
  · simp [Nat.not_lt.1 h, eq_comm]

/-- Writing fails only for a payload over the limit, and then with the payload's size. -/
theorem encode_eq_error_iff {m : Message} {e : ProtocolError} :
    encode c m = .error e ↔
      maxFrameLen < (m.encode c).size ∧ e = .frameTooLarge (m.encode c).size maxFrameLen := by
  rw [encode_eq]
  split_ifs with h
  · simp [h, eq_comm]
  · simp [h]

theorem foldlM_encode {ms : List Message} (hms : ∀ m ∈ ms, (m.encode c).size ≤ maxFrameLen)
    (acc : ByteArray) :
    ms.foldlM (fun acc m => (acc ++ ·) <$> encode c m) acc = .ok (acc ++ frames c ms) := by
  induction ms generalizing acc with
  | nil =>
    rw [frames, ByteArray.append_empty]
    rfl
  | cons m ms ih =>
    have hrest : ∀ m' ∈ ms, (m'.encode c).size ≤ maxFrameLen := fun m' h => hms m' (by simp [h])
    rw [List.foldlM_cons, encode_eq_ok c (hms m (by simp))]
    show ms.foldlM _ (acc ++ frameOf c m) = _
    rw [ih hrest, frames, ByteArray.append_assoc]

theorem encodeAll_eq_ok {ms : List Message} (hms : ∀ m ∈ ms, (m.encode c).size ≤ maxFrameLen) :
    encodeAll c ms = .ok (frames c ms) := by
  rw [encodeAll, foldlM_encode c hms, ByteArray.empty_append]

/-! ### Reading one frame -/

section Read

variable (ending : SourceEnd)

/-- A frame within the limit reads as what its payload decodes to, wherever it stands. -/
theorem read_frame {pre payload : ByteArray} (post : ByteArray) (hp : payload.size ≤ maxFrameLen) :
    read c (pre ++ (header payload ++ payload) ++ post) ending pre.size =
      ((Message.decode c payload).map (.message · (pre.size + 4 + payload.size))).getD
        (.failed (.decode "invalid message")) := by
  have he := Embeds.middle pre (header payload ++ payload) post
  have hsize : (pre ++ (header payload ++ payload) ++ post).size =
      pre.size + 4 + payload.size + post.size := by
    simp only [ByteArray.size_append, size_header]; omega
  have hlen : Head.bigEndian (pre ++ (header payload ++ payload) ++ post) pre.size 4 =
      some payload.size :=
    Head.bigEndian_of_embeds he.append_left (by unfold maxFrameLen at hp; omega)
  have hpayload := he.append_right.extract_eq
  rw [size_header] at hpayload
  unfold read
  rw [if_neg (by omega), hlen, Option.getD_some, if_neg (by omega), if_neg (by omega), hpayload]
  cases Message.decode c payload <;> rfl

theorem read_frameOf {m : Message} (pre post : ByteArray) (hm : Message.decode c (m.encode c) = some m)
    (hs : (m.encode c).size ≤ maxFrameLen) :
    read c (pre ++ frameOf c m ++ post) ending pre.size =
      .message m (pre.size + (frameOf c m).size) := by
  rw [frameOf, read_frame c ending post hs, hm, ByteArray.size_append, size_header,
    ← Nat.add_assoc]
  rfl

/-- Fewer bytes left than a length takes: the stream is taken to end between frames. -/
theorem read_short_tail (pre : ByteArray) {t : ByteArray} (ht : t.size < 4) :
    read c (pre ++ t) ending pre.size = shortRead ending true := by
  have hsize : (pre ++ t).size = pre.size + t.size := ByteArray.size_append
  simp [read, hsize, ht]

theorem extract_frameOf {m : Message} {n : Nat} (h4 : 4 ≤ n) :
    (frameOf c m).extract 0 n = header (m.encode c) ++ (m.encode c).extract 0 (n - 4) := by
  rw [frameOf, ByteArray.extract_append, size_header, Nat.zero_sub]
  congr 1
  have h := ByteArray.extract_zero_max_size (a := header (m.encode c)) (i := n)
  rwa [size_header, Nat.max_eq_left h4] at h

/-- A frame cut after its length: the payload runs past the end of the bytes. -/
theorem read_truncated (pre : ByteArray) {m : Message} {n : Nat}
    (hs : (m.encode c).size ≤ maxFrameLen) (h4 : 4 ≤ n) (hn : n < (frameOf c m).size) :
    read c (pre ++ (frameOf c m).extract 0 n) ending pre.size = shortRead ending false := by
  rw [size_frameOf] at hn
  rw [extract_frameOf c h4, ← ByteArray.append_assoc]
  have hlen : Head.bigEndian (pre ++ header (m.encode c) ++ (m.encode c).extract 0 (n - 4))
      pre.size 4 = some (m.encode c).size :=
    Head.bigEndian_of_embeds (Embeds.middle _ _ _) (by unfold maxFrameLen at hs; omega)
  have hsize : (pre ++ header (m.encode c) ++ (m.encode c).extract 0 (n - 4)).size =
      pre.size + n := by
    simp only [ByteArray.size_append, size_header, ByteArray.size_extract]; omega
  unfold read
  rw [if_neg (by omega), hlen, Option.getD_some, if_neg (by omega), if_pos (by omega)]

end Read

/-! ### Reading frame after frame -/

/-- Reading from `pos` gives the messages `ms` one after another and arrives at `last`. -/
inductive Reads (src : ByteArray) (ending : SourceEnd) : Nat → List Message → Nat → Prop
  | nil (pos : Nat) : Reads src ending pos [] pos
  | cons {pos next last : Nat} {m : Message} {ms : List Message} :
      read c src ending pos = .message m next → Reads src ending next ms last →
        Reads src ending pos (m :: ms) last

/-- A message a frame carries back: it reads back from its encoding, which fits a frame. -/
def Carried (m : Message) : Prop :=
  Message.decode c (m.encode c) = some m ∧ (m.encode c).size ≤ maxFrameLen

/-- The frames of carried messages read back as the messages, wherever they stand. -/
theorem reads_frames {ms : List Message} (hms : ∀ m ∈ ms, Carried c m) (pre post : ByteArray)
    (ending : SourceEnd) :
    Reads c (pre ++ frames c ms ++ post) ending pre.size ms (pre.size + (frames c ms).size) := by
  induction ms generalizing pre with
  | nil =>
    simp only [frames, ByteArray.size_empty, Nat.add_zero]
    exact .nil _
  | cons m ms ih =>
    have hm := hms m (by simp)
    have hrest : ∀ m' ∈ ms, Carried c m' := fun m' h => hms m' (by simp [h])
    -- the first frame is read in place, the rest from behind it
    have hfirst : read c (pre ++ frames c (m :: ms) ++ post) ending pre.size =
        .message m (pre.size + (frameOf c m).size) := by
      rw [show pre ++ frames c (m :: ms) ++ post = pre ++ frameOf c m ++ (frames c ms ++ post) by
        simp only [frames, ByteArray.append_assoc]]
      exact read_frameOf c ending pre _ hm.1 hm.2
    have hnext := ih hrest (pre ++ frameOf c m)
    rw [show pre ++ frameOf c m ++ frames c ms ++ post = pre ++ frames c (m :: ms) ++ post by
        simp only [frames, ByteArray.append_assoc],
      show (pre ++ frameOf c m).size + (frames c ms).size = pre.size + (frames c (m :: ms)).size by
        simp only [frames, ByteArray.size_append, Nat.add_assoc],
      ByteArray.size_append] at hnext
    exact .cons hfirst hnext

/-- The frames read from the start of a stream that continues with `t`. -/
theorem reads_frames_append {ms : List Message} (hms : ∀ m ∈ ms, Carried c m) (t : ByteArray)
    (ending : SourceEnd) : Reads c (frames c ms ++ t) ending 0 ms (frames c ms).size := by
  simpa using reads_frames c hms .empty t ending

section Runs

variable {c} {src : ByteArray} {ending : SourceEnd} {pos last : Nat} {ms : List Message}

open Service

/-- Reading the whole stream passes each message of a run of reads. -/
theorem readAll_go_of_reads (h : Reads c src ending pos ms last) (k : Nat) (acc : List Message) :
    readAll.go c src ending (ms.length + k) pos acc =
      readAll.go c src ending k last (ms.reverse ++ acc) := by
  induction h generalizing acc with
  | nil => simp
  | cons hread _ ih =>
    rw [List.length_cons, Nat.add_right_comm, readAll.go, hread]
    simp [ih]

/-- Reading the whole stream stops at the first read that gives no message. -/
theorem readAll_go_stop {r : FrameRead} (h : read c src ending pos = r)
    (hr : ∀ m next, r ≠ .message m next) (k : Nat) (acc : List Message) :
    readAll.go c src ending (k + 1) pos acc = (acc.reverse, some r) := by
  cases r with
  | message m next => exact absurd rfl (hr m next)
  | finished | failed _ | waiting => simp [readAll.go, h]

/-- Once reading has ended, every receive reports the connection closed. -/
theorem receives_ended (k : Nat) :
    Service.receives c src ending k pos true =
      List.replicate k (protocolErrorJson .connectionClosed) := by
  induction k with
  | zero => rfl
  | succ k ih => simp [Service.receives, ih, List.replicate_succ]

/-- Receiving passes each message of a run of reads. -/
theorem receives_of_reads (h : Reads c src ending pos ms last) (k : Nat) :
    Service.receives c src ending (ms.length + k) pos false =
      ms.map messageJson ++ Service.receives c src ending k last false := by
  induction h with
  | nil => simp
  | cons hread _ ih =>
    rw [List.length_cons, Nat.add_right_comm, Service.receives, hread]
    simp [ih]

theorem receives_finished (h : read c src ending pos = .finished) (k : Nat) :
    Service.receives c src ending (k + 1) pos false =
      List.replicate (k + 1) (protocolErrorJson .connectionClosed) := by
  simp [Service.receives, h, receives_ended, List.replicate_succ]

theorem receives_failed {e : ProtocolError} (h : read c src ending pos = .failed e) (k : Nat) :
    Service.receives c src ending (k + 1) pos false =
      protocolErrorJson e :: List.replicate k (protocolErrorJson .connectionClosed) := by
  simp [Service.receives, h, receives_ended]

end Runs

/-! ### A stream of frames -/

/-- The frames of carried messages, then bytes where no message follows: reading the stream
returns the messages and how the read after them ended. -/
theorem readAll_frames_append {ms : List Message} (hms : ∀ m ∈ ms, Carried c m) {t : ByteArray}
    {ending : SourceEnd} {r : FrameRead} (hr : read c (frames c ms ++ t) ending (frames c ms).size = r)
    (hnone : ∀ m next, r ≠ .message m next) (k : Nat) :
    readAll c (frames c ms ++ t) ending (ms.length + k + 1) = (ms, some r) := by
  rw [readAll, Nat.add_assoc, readAll_go_of_reads (reads_frames_append c hms t ending),
    readAll_go_stop hr hnone]
  simp

/-- A well-formed message within the frame limit is carried under a codec that round-trips. -/
theorem carried_of_roundTrips {c : Serde.Codec} (hc : c.RoundTrips) {m : Message}
    (hm : m.WellFormed) (hs : (m.encode c).size ≤ maxFrameLen) : Carried c m := by
  refine ⟨?_, hs⟩
  rw [Message.decode, Message.encode,
    hc _ _ (Message.toValue_fits hm) (lt_of_le_of_lt hs (by decide)), Option.bind_some]
  exact Message.ofValue_toValue hm

/-- Framing is lossless under a codec that round-trips serde's data model. Writing fails exactly
for a payload over the limit; the frame of a well-formed message reads back as the message. Frames
written one after another, then fewer bytes than a length takes and the end of the stream, read
back as the messages in order and then a clean end, which a connection reports as the peer
closing. A stream that ends inside a frame once its length has arrived gives an end-of-stream
error instead; a connection reports it once and is closed from then on. -/
theorem frames_read_back_until_stream_ends (c : Serde.Codec) (hc : c.RoundTrips)
    (ms : List Message) (hms : ∀ m ∈ ms, m.WellFormed ∧ (m.encode c).size ≤ maxFrameLen)
    (k : Nat) :
    (∀ m e, encode c m = .error e ↔
      maxFrameLen < (m.encode c).size ∧ e = .frameTooLarge (m.encode c).size maxFrameLen) ∧
    (∀ m f, m.WellFormed → encode c m = .ok f → read c f .closed 0 = .message m f.size) ∧
    ∃ bytes, encodeAll c ms = .ok bytes ∧
      (∀ t : ByteArray, t.size < 4 →
        readAll c (bytes ++ t) .closed (ms.length + k + 1) = (ms, some .finished) ∧
        Service.receives c (bytes ++ t) .closed (ms.length + k + 1) 0 false =
          ms.map Service.messageJson ++
            List.replicate (k + 1) (Service.protocolErrorJson .connectionClosed)) ∧
      ∀ m f n, encode c m = .ok f → 4 ≤ n → n < f.size →
        readAll c (bytes ++ f.extract 0 n) .closed (ms.length + k + 1) =
            (ms, some (.failed (.io ⟨.unexpectedEof, .message "early eof"⟩))) ∧
        Service.receives c (bytes ++ f.extract 0 n) .closed (ms.length + k + 1) 0 false =
          ms.map Service.messageJson ++
            Service.protocolErrorJson (.io ⟨.unexpectedEof, .message "early eof"⟩) ::
              List.replicate k (Service.protocolErrorJson .connectionClosed) := by
  have hcarried : ∀ m ∈ ms, Carried c m := fun m h =>
    carried_of_roundTrips hc (hms m h).1 (hms m h).2
  refine ⟨fun m e => encode_eq_error_iff c, fun m f hm hf => ?_,
    frames c ms, encodeAll_eq_ok c fun m h => (hms m h).2, fun t ht => ?_, fun m f n hf h4 hn => ?_⟩
  · obtain ⟨hs, rfl⟩ := (encode_eq_ok_iff c).1 hf
    simpa using read_frameOf c .closed .empty .empty (carried_of_roundTrips hc hm hs).1 hs
  · -- too few bytes for a length: the read after the frames finds the stream at its end
    have hend : read c (frames c ms ++ t) .closed (frames c ms).size = .finished :=
      read_short_tail c .closed _ ht
    refine ⟨readAll_frames_append c hcarried hend (by simp) k, ?_⟩
    rw [Nat.add_assoc, receives_of_reads (reads_frames_append c hcarried t .closed),
      receives_finished hend]
  · -- the cut frame announces its length, and the bytes stop before that many have come
    obtain ⟨hs, rfl⟩ := (encode_eq_ok_iff c).1 hf
    have hcut : read c (frames c ms ++ (frameOf c m).extract 0 n) .closed (frames c ms).size =
        .failed (.io ⟨.unexpectedEof, .message "early eof"⟩) :=
      read_truncated c .closed _ hs h4 hn
    refine ⟨readAll_frames_append c hcarried hcut (by simp) k, ?_⟩
    rw [Nat.add_assoc, receives_of_reads (reads_frames_append c hcarried _ .closed),
      receives_failed hcut]

/-- A ping and a normal close, written and read back as the stream ends, under the codec whose
limits grow with its input. -/
theorem ping_and_close_read_back :
    Cbor.unbounded.RoundTrips ∧
    (∀ m ∈ [Message.ping, .close ErrorCode.normal "done"],
      m.WellFormed ∧ (m.encode Cbor.unbounded).size ≤ maxFrameLen) ∧
    ∃ bytes, encodeAll Cbor.unbounded [.ping, .close ErrorCode.normal "done"] = .ok bytes ∧
      readAll Cbor.unbounded bytes .closed 3 =
        ([.ping, .close ErrorCode.normal "done"], some .finished) := by
  have hms : ∀ m ∈ [Message.ping, .close ErrorCode.normal "done"],
      m.WellFormed ∧ (m.encode Cbor.unbounded).size ≤ maxFrameLen := by
    intro m hm
    simp only [List.mem_cons, List.not_mem_nil, or_false] at hm
    rcases hm with rfl | rfl
    · exact ⟨trivial, by decide +kernel⟩
    · exact ⟨trivial, by decide +kernel⟩
  obtain ⟨-, -, bytes, henc, hend, -⟩ :=
    frames_read_back_until_stream_ends _ Cbor.unbounded_roundTrips _ hms 0
  have hread := (hend .empty (by decide)).1
  rw [ByteArray.append_empty] at hread
  exact ⟨Cbor.unbounded_roundTrips, hms, bytes, henc, hread⟩

/-- A ping's frame followed by the first two bytes of a length, then the end of the stream: the
cut length is read as a clean end, not as a truncated frame. -/
theorem cut_length_read_as_clean_end :
    frames Cbor.ciborium [.ping] ++ ⟨#[0, 0]⟩ = ⟨#[0, 0, 0, 5, 100, 80, 105, 110, 103, 0, 0]⟩ ∧
      readAll Cbor.ciborium (frames Cbor.ciborium [.ping] ++ ⟨#[0, 0]⟩) .closed 1001 =
        ([.ping], some .finished) := by
  have hping : ∀ m ∈ [Message.ping], Carried Cbor.ciborium m := by
    simp only [List.mem_singleton, forall_eq]
    exact ⟨by rfl, by decide⟩
  have hend := read_short_tail Cbor.ciborium .closed (frames Cbor.ciborium [.ping])
    (t := ⟨#[0, 0]⟩) (by decide)
  exact ⟨by decide, readAll_frames_append Cbor.ciborium hping hend (by simp [shortRead]) 999⟩

end Frame

end RevSync
