import RevSync.Protocol.Encoding
import RevSync.Cbor.Head
import RevSync.Protocol.Error

/-! Frames on a byte stream: a message's encoding preceded by its length in four big-endian
bytes, at most 16 MiB; running out of bytes before a whole length is a clean end of the stream,
running out inside a frame an error. -/

namespace RevSync

/-- The largest payload of a frame. -/
def maxFrameLen : Nat := 16 * 1024 * 1024

namespace Frame

variable (c : Serde.Codec)

/-- The frame of a message. -/
def encode (m : Message) : Except ProtocolError ByteArray :=
  let payload := m.encode c
  if payload.size > maxFrameLen then .error (.frameTooLarge payload.size maxFrameLen)
  else .ok (⟨(Head.bigEndianBytes payload.size 4).toArray⟩ ++ payload)

/-- The frames of several messages, one after another. -/
def encodeAll (ms : List Message) : Except ProtocolError ByteArray :=
  ms.foldlM (fun acc m => (acc ++ ·) <$> encode c m) ByteArray.empty

end Frame

/-- What a byte source does once its bytes are used up. -/
inductive SourceEnd where
  /-- It reports the end of the stream. -/
  | closed
  /-- It fails with an I/O error. -/
  | failing (e : IoError)
  /-- It stays open, so a reader waits for more. -/
  | pending
  deriving DecidableEq, Repr, Inhabited

/-- The outcome of reading one frame. -/
inductive FrameRead where
  /-- A message, and the position after its frame. -/
  | message (m : Message) (next : Nat)
  /-- The stream ended between frames. -/
  | finished
  /-- Reading failed. -/
  | failed (e : ProtocolError)
  /-- The source has no more bytes yet. -/
  | waiting

namespace Frame

variable (c : Serde.Codec)

/-- The outcome when the source runs out, between frames or inside one. -/
def shortRead (ending : SourceEnd) (atBoundary : Bool) : FrameRead :=
  match ending with
  | .closed =>
    if atBoundary then .finished else .failed (.io ⟨.unexpectedEof, .message "early eof"⟩)
  | .failing e => .failed (.io e)
  | .pending => .waiting

/-- Reads the frame at `pos` of the bytes `src`, which are followed by `ending`. -/
def read (src : ByteArray) (ending : SourceEnd) (pos : Nat) : FrameRead :=
  if pos + 4 > src.size then shortRead ending true
  else
    let len := (Head.bigEndian src pos 4).getD 0
    if len > maxFrameLen then .failed (.frameTooLarge len maxFrameLen)
    else if pos + 4 + len > src.size then shortRead ending false
    else
      match Message.decode c (src.extract (pos + 4) (pos + 4 + len)) with
      | some m => .message m (pos + 4 + len)
      | none => .failed (.decode "invalid message")

/-- Reads up to `limit` frames from the start: the messages read and how reading stopped
(`none` when the limit was reached first). -/
def readAll (src : ByteArray) (ending : SourceEnd) (limit : Nat) :
    List Message × Option FrameRead :=
  go limit 0 []
where
  go : Nat → Nat → List Message → List Message × Option FrameRead
    | 0, _, acc => (acc.reverse, none)
    | k + 1, pos, acc =>
      match read c src ending pos with
      | .message m next => go k next (m :: acc)
      | other => (acc.reverse, some other)

end Frame

end RevSync
