import RevSync.Service.Message
import RevSync.Protocol.Frame
import RevSync.Cbor.Serde
import RevSync.Codec.Hex
import RevSync.Text.Quoted

/-!
# Requests about the wire format

Encoding and decoding single messages, writing and reading frames (also through a source that
fails or a sink with limited room), and a connection whose far end replays given bytes.
-/

namespace RevSync

namespace Service

/-- Bytes given as hex. -/
def hexBytes (req : Json) (key : String) : Read ByteArray := do need (Hex.decode (← text req key))

/-- A list of messages. -/
def messagesOf (req : Json) (key : String) : Read (List Message) := do
  (← list req key).mapM asMessage

/-- The messages read and how reading ended, as JSON. -/
def readResultJson (messages : List Message) (ending : Option FrameRead) : Json :=
  let endJson := match ending with
    | some (.failed e) => protocolErrorJson e
    | some (.message _ _) | some .finished | some .waiting => .str "eof"
    | none => .str "limit"
  Json.object [("messages", .arr (messages.map messageJson)), ("end", endJson)]

/-- Writes frames into a sink that takes `room` bytes in all and then fails: the outcome of each
write and the bytes taken. -/
def writeWithRoom (messages : List Message) (room : Nat) : List Json × ByteArray :=
  let failure : ProtocolError := .io ⟨.other, .message "injected write failure"⟩
  let (results, written, _) := messages.foldl (fun (acc, out, left) m =>
    match Frame.encode Cbor.ciborium m with
    | .error e => (protocolErrorJson e :: acc, out, left)
    | .ok frame =>
      if frame.size ≤ left then (.str "ok" :: acc, out ++ frame, left - frame.size)
      else (protocolErrorJson failure :: acc, out ++ frame.extract 0 left, 0))
    ([], ByteArray.empty, room)
  (results.reverse, written)

/-- The body of the large test revision: one key holding `n` letters. -/
def largeMessage (n : Nat) : Message :=
  let body : Fields := [("x", .str ("".pushn 'a' n))]
  .revs [{ docId := "big", revId := ⟨1, "a"⟩, history := [], deleted := false, body, sequence := 1 }] 1

/-- What successive receives on a connection give: the messages of the incoming bytes, then
the error that ended reading (a clean end counts as the peer closing), then closed; or, while the
far end stays open, a timeout. -/
def receives (c : Serde.Codec) (incoming : ByteArray) (ending : SourceEnd) :
    Nat → Nat → Bool → List Json
  | 0, _, _ => []
  | k + 1, pos, ended =>
    if ended then
      protocolErrorJson .connectionClosed :: receives c incoming ending k pos true
    else
      match Frame.read c incoming ending pos with
      | .message m next => messageJson m :: receives c incoming ending k next false
      | .finished => protocolErrorJson .connectionClosed :: receives c incoming ending k pos true
      | .failed e => protocolErrorJson e :: receives c incoming ending k pos true
      | .waiting => .str "$timeout" :: receives c incoming ending k pos false

/-- The answer to a request about the wire format, or `none` when its operation is not one of
these. -/
def wireAnswer (op : String) (req : Json) : Option (Read Json) :=
  match op with
  | "message_encode" => some do
    let m ← asMessage (← field req "message")
    let cbor := m.encode Cbor.ciborium
    let roundtrip := match Message.decode Cbor.ciborium cbor with
      | some m' => m'.sameAs m
      | none => false
    return Json.object [("kind", .str m.kind), ("cbor", .str (Hex.encode cbor)),
      ("roundtrip", .bool roundtrip)]
  | "message_decode" => some do
    return match Message.decode Cbor.ciborium (← hexBytes req "cbor") with
      | some m => Json.object [("kind", .str m.kind), ("message", messageJson m)]
      | none => protocolErrorJson (.decode "invalid message")
  | "frame_write" => some do
    return match Frame.encodeAll Cbor.ciborium (← messagesOf req "messages") with
      | .ok bytes => Json.object [("bytes", .str (Hex.encode bytes))]
      | .error e => protocolErrorJson e
  | "frame_read" => some do
    let (ms, ending) := Frame.readAll Cbor.ciborium (← hexBytes req "bytes") .closed 1001
    return readResultJson ms ending
  | "frame_fail" => some do
    if let some _ := field? req "read" then
      let failure : IoError := ⟨.other, .message "injected read failure"⟩
      let (ms, ending) := Frame.readAll Cbor.ciborium (← hexBytes req "read") (.failing failure) 1001
      return readResultJson ms ending
    let (results, written) := writeWithRoom (← messagesOf req "messages") (← nat req "room")
    return Json.object [("results", .arr results), ("written", .str (Hex.encode written))]
  | "frame_big" => some do
    let n ← natUpTo req "bytes" 20000000
    return match Frame.encode Cbor.ciborium (largeMessage n) with
      | .ok frame => Json.object [("frame_len", Json.ofNat frame.size)]
      | .error e => protocolErrorJson e
  | "connection" => some do
    let peer ← text req "peer"
    let sends ← match field? req "send" with
      | some v => asList v >>= fun xs => xs.mapM asMessage
      | none => pure []
    let incoming ← match field? req "incoming" with
      | some _ => hexBytes req "incoming"
      | none => pure ByteArray.empty
    let closeFar ← flag req "close_far" true
    let count ← natUpTo req "recv" 100
    let (results, sent) := sends.foldl (fun (acc, out) m =>
      match Frame.encode Cbor.ciborium m with
      | .ok frame => (.str "ok" :: acc, out ++ frame)
      | .error e => (protocolErrorJson e :: acc, out)) ([], ByteArray.empty)
    let ending : SourceEnd := if closeFar then .closed else .pending
    return Json.object [("peer", .str peer),
      ("debug", .str ("Connection \x7b peer: " ++ Text.quote peer ++ ", .. \x7d")),
      ("send", .arr results.reverse), ("sent", .str (Hex.encode sent)),
      ("received", .arr (receives Cbor.ciborium incoming ending count 0 false))]
  | _ => none

end Service

end RevSync
