import RevSync.Protocol.Message
import RevSync.Serde.Value

/-! Messages in serde's data model: each kind a variant of an externally tagged enum, fields as
struct fields in declaration order, revision ids as their text. A codec carries them as bytes. -/

namespace RevSync

open Serde

namespace Hello

def shape : Shape :=
  .struct [("protocol_version", .u16), ("database", .text), ("checkpoint_id", .text),
    ("authorization", .option .text), ("headers", .textMap .text), ("delta_sync", .bool)] false

def toValue (h : Hello) : Value :=
  .struct [("protocol_version", .nat h.protocolVersion.toNat), ("database", .text h.database),
    ("checkpoint_id", .text h.checkpointId), ("authorization", .option .text h.authorization),
    ("headers", .textMap (h.headers.map fun (k, v) => (k, .text v))),
    ("delta_sync", .bool h.deltaSync)]

def ofFields (fs : List (String × Value)) : Option Hello := do
  let version ← field fs "protocol_version" Value.asNat
  let database ← field fs "database" Value.asText
  let checkpointId ← field fs "checkpoint_id" Value.asText
  let authorization ← optionalField fs "authorization" Value.asText
  let headers ← field fs "headers" (Value.asTextMap Value.asText)
  let deltaSync ← field fs "delta_sync" Value.asBool
  pure ⟨version.toUInt16, database, checkpointId, authorization, headers, deltaSync⟩

end Hello

/-- A revision id travels as its text and is read back by parsing it. -/
def Value.asRevisionId (v : Value) : Option RevisionId := v.asText.bind RevisionId.parse?

namespace Revision

def shape : Shape :=
  .struct [("doc_id", .text), ("rev_id", .text), ("history", .seq .text), ("deleted", .bool),
    ("body", .textMap .any), ("sequence", .u64)] false

def toValue (r : Revision) : Value :=
  .struct [("doc_id", .text r.docId), ("rev_id", .text r.revId.toText),
    ("history", .seq (r.history.map fun h => .text h.toText)), ("deleted", .bool r.deleted),
    ("body", (Json.obj r.body).toValue), ("sequence", .nat r.sequence)]

def ofFields (fs : List (String × Value)) : Option Revision := do
  let docId ← field fs "doc_id" Value.asText
  let revId ← field fs "rev_id" Value.asRevisionId
  let history ← field fs "history" (Value.asSeq Value.asRevisionId)
  let deleted ← field fs "deleted" Value.asBool
  let body ← field fs "body" (Value.asTextMap Value.asJson)
  let sequence ← field fs "sequence" Value.asNat
  pure { docId, revId, history, deleted, body, sequence }

end Revision

namespace Rejection

def shape : Shape := .struct [("doc_id", .text), ("rev_id", .text), ("code", .u16)] false

def toValue (x : Rejection) : Value :=
  .struct [("doc_id", .text x.docId), ("rev_id", .text x.revId.toText),
    ("code", .nat x.code.code.toNat)]

def ofFields (fs : List (String × Value)) : Option Rejection := do
  let docId ← field fs "doc_id" Value.asText
  let revId ← field fs "rev_id" Value.asRevisionId
  let code ← field fs "code" Value.asNat
  pure { docId, revId, code := ⟨code.toUInt16⟩ }

end Rejection

namespace Message

/-- The enum of messages; the four kinds whose fields are named in place may also list them in
a sequence. -/
def shape : Shape :=
  .enum [("Hello", some Hello.shape),
    ("Welcome", some (.struct [("database_uuid", .uuid), ("remote_checkpoint", .option .u64)] false)),
    ("Error", some (.struct [("code", .u16), ("message", .text)] true)),
    ("SubChanges", some (.struct [("since", .u64), ("continuous", .bool), ("batch_size", .u32)] false)),
    ("Revs", some (.struct [("revisions", .seq Revision.shape), ("sequence", .u64)] false)),
    ("CaughtUp", some (.struct [("sequence", .u64)] true)),
    ("RevsAck", some (.struct [("accepted", .seq (.pair .text .text)),
      ("rejected", .seq Rejection.shape)] false)),
    ("SetCheckpoint", some (.struct [("checkpoint_id", .text), ("sequence", .u64)] true)),
    ("Ping", none), ("Pong", none),
    ("Close", some (.struct [("code", .u16), ("reason", .text)] true))]

def toValue : Message → Value
  | .hello h => .variant "Hello" (some h.toValue)
  | .welcome u c => .variant "Welcome" (some (.struct [("database_uuid", .uuid u),
      ("remote_checkpoint", .option .nat c)]))
  | .error c m => .variant "Error" (some (.struct [("code", .nat c.code.toNat), ("message", .text m)]))
  | .subChanges s c n => .variant "SubChanges" (some (.struct [("since", .nat s),
      ("continuous", .bool c), ("batch_size", .nat n)]))
  | .revs rs s => .variant "Revs" (some (.struct [("revisions", .seq (rs.map Revision.toValue)),
      ("sequence", .nat s)]))
  | .caughtUp s => .variant "CaughtUp" (some (.struct [("sequence", .nat s)]))
  | .revsAck a r => .variant "RevsAck" (some (.struct [
      ("accepted", .seq (a.map fun (d, v) => .pair (.text d) (.text v.toText))),
      ("rejected", .seq (r.map Rejection.toValue))]))
  | .setCheckpoint c s => .variant "SetCheckpoint" (some (.struct [("checkpoint_id", .text c),
      ("sequence", .nat s)]))
  | .ping => .variant "Ping" none
  | .pong => .variant "Pong" none
  | .close c r => .variant "Close" (some (.struct [("code", .nat c.code.toNat), ("reason", .text r)]))

/-- The message of a variant's fields. -/
def ofFields (kind : String) (fs : List (String × Value)) : Option Message :=
  match kind with
  | "Hello" => hello <$> Hello.ofFields fs
  | "Welcome" => do
    let u ← field fs "database_uuid" Value.asUuid
    let c ← optionalField fs "remote_checkpoint" Value.asNat
    pure (welcome u c)
  | "Error" => do
    let c ← field fs "code" Value.asNat
    let m ← field fs "message" Value.asText
    pure (error ⟨c.toUInt16⟩ m)
  | "SubChanges" => do
    let s ← field fs "since" Value.asNat
    let c ← field fs "continuous" Value.asBool
    let n ← field fs "batch_size" Value.asNat
    pure (subChanges s c n)
  | "Revs" => do
    let rs ← field fs "revisions" (Value.asSeq fun v => v.asFields.bind Revision.ofFields)
    let s ← field fs "sequence" Value.asNat
    pure (revs rs s)
  | "CaughtUp" => caughtUp <$> field fs "sequence" Value.asNat
  | "RevsAck" => do
    let a ← field fs "accepted" (Value.asSeq (Value.asPair Value.asText Value.asRevisionId))
    let r ← field fs "rejected" (Value.asSeq fun v => v.asFields.bind Rejection.ofFields)
    pure (revsAck a r)
  | "SetCheckpoint" => do
    let c ← field fs "checkpoint_id" Value.asText
    let s ← field fs "sequence" Value.asNat
    pure (setCheckpoint c s)
  | "Close" => do
    let c ← field fs "code" Value.asNat
    let r ← field fs "reason" Value.asText
    pure (close ⟨c.toUInt16⟩ r)
  | _ => none

def ofValue : Value → Option Message
  | .variant "Ping" _ => some ping
  | .variant "Pong" _ => some pong
  | .variant kind (some (.struct fs)) => ofFields kind fs
  | _ => none

/-- The message's encoding under a codec. -/
def encode (c : Codec) (m : Message) : ByteArray := c.write m.toValue

/-- The message a codec reads from the start of the bytes. -/
def decode (c : Codec) (b : ByteArray) : Option Message := (c.read shape b).bind ofValue

end Message

end RevSync
