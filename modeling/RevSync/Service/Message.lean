import RevSync.Service.Encode
import RevSync.Service.Request
import RevSync.Protocol.Message

/-!
# Messages as JSON

The JSON form of a message: `"Ping"` and `"Pong"`, and for every other kind an object with the
kind as its only key and the fields under it. Reading it back is strict about types and ranges
and ignores unknown fields.
-/

namespace RevSync

namespace Service

/-- A message as JSON. -/
def messageJson : Message → Json
  | .hello h => Json.object [("Hello", Json.object [
      ("protocol_version", Json.ofNat h.protocolVersion.toNat), ("database", .str h.database),
      ("checkpoint_id", .str h.checkpointId),
      ("authorization", Json.ofOption Json.str h.authorization),
      ("headers", .obj (h.headers.mapValues Json.str)), ("delta_sync", .bool h.deltaSync)])]
  | .welcome u c => Json.object [("Welcome", Json.object [("database_uuid", .str u.toText),
      ("remote_checkpoint", Json.ofOption Json.ofNat c)])]
  | .error c m => Json.object [("Error", Json.object [("code", Json.ofNat c.code.toNat),
      ("message", .str m)])]
  | .subChanges s c n => Json.object [("SubChanges", Json.object [("since", Json.ofNat s),
      ("continuous", .bool c), ("batch_size", Json.ofNat n)])]
  | .revs rs s => Json.object [("Revs", Json.object [("revisions", .arr (rs.map revisionJson)),
      ("sequence", Json.ofNat s)])]
  | .caughtUp s => Json.object [("CaughtUp", Json.object [("sequence", Json.ofNat s)])]
  | .revsAck a r => Json.object [("RevsAck", Json.object [
      ("accepted", .arr (a.map fun (d, v) => .arr [.str d, revIdJson v])),
      ("rejected", .arr (r.map fun x => Json.object [("doc_id", .str x.docId),
        ("rev_id", revIdJson x.revId), ("code", Json.ofNat x.code.code.toNat)]))])]
  | .setCheckpoint c s => Json.object [("SetCheckpoint", Json.object [("checkpoint_id", .str c),
      ("sequence", Json.ofNat s)])]
  | .ping => .str "Ping"
  | .pong => .str "Pong"
  | .close c r => Json.object [("Close", Json.object [("code", Json.ofNat c.code.toNat),
      ("reason", .str r)])]

/-- A natural number not above `max`. -/
def asNatUpTo (max : Nat) (v : Json) : Read Nat := do
  let n ← asNat v
  if n ≤ max then pure n else unreadable

/-- A required field, `null` not allowed unless `f` accepts it. -/
def member {α : Type} (obj : Json) (key : String) (f : Json → Read α) : Read α :=
  match obj.get? key with
  | some v => f v
  | none => unreadable

/-- An optional field: missing or `null` is absent. -/
def memberOpt {α : Type} (obj : Json) (key : String) (f : Json → Read α) : Read (Option α) :=
  match obj.get? key with
  | some .null | none => pure none
  | some v => some <$> f v

/-- A revision id given as text. -/
def asRevisionId (v : Json) : Read RevisionId := do need (RevisionId.parse? (← asText v))

/-- An error code. -/
def asErrorCode (v : Json) : Read ErrorCode := (fun n => ⟨n.toUInt16⟩) <$> asNatUpTo 65535 v

/-- The largest 64-bit number. -/
def u64Max : Nat := Nat.pow 2 64 - 1

/-- A revision in its stored JSON form. -/
def asRevision (v : Json) : Read Revision := do
  unless v.isObject do unreadable
  let docId ← member v "doc_id" asText
  let revId ← member v "rev_id" asRevisionId
  let history ← member v "history" fun h => do (← asList h).mapM asRevisionId
  let deleted ← member v "deleted" asBool
  let body ← member v "body" asFields
  let sequence ← member v "sequence" (asNatUpTo u64Max)
  pure { docId, revId, history, deleted, body, sequence }

/-- A message in its JSON form. -/
def asMessage (v : Json) : Read Message :=
  match v with
  | .str "Ping" => pure .ping
  | .str "Pong" => pure .pong
  | .obj [(kind, body)] => do
    unless body.isObject do unreadable
    match kind with
    | "Hello" => do
      let protocolVersion ← (·.toUInt16) <$> member body "protocol_version" (asNatUpTo 65535)
      let database ← member body "database" asText
      let checkpointId ← member body "checkpoint_id" asText
      let authorization ← memberOpt body "authorization" asText
      let headers ← member body "headers" fun h => do
        (← asFields h).mapM fun (k, x) => do pure (k, ← asText x)
      let deltaSync ← member body "delta_sync" asBool
      pure (.hello (Hello.mk protocolVersion database checkpointId authorization headers deltaSync))
    | "Welcome" => do
      let u ← member body "database_uuid" fun x => do need (Uuid.parse? (← asText x))
      let c ← memberOpt body "remote_checkpoint" (asNatUpTo u64Max)
      pure (.welcome u c)
    | "Error" => do
      pure (.error (← member body "code" asErrorCode) (← member body "message" asText))
    | "SubChanges" => do
      pure (.subChanges (← member body "since" (asNatUpTo u64Max))
        (← member body "continuous" asBool) (← member body "batch_size" (asNatUpTo (Nat.pow 2 32 - 1))))
    | "Revs" => do
      pure (.revs (← member body "revisions" fun x => do (← asList x).mapM asRevision)
        (← member body "sequence" (asNatUpTo u64Max)))
    | "CaughtUp" => do pure (.caughtUp (← member body "sequence" (asNatUpTo u64Max)))
    | "RevsAck" => do
      let accepted ← member body "accepted" fun x => do
        (← asList x).mapM fun
          | .arr [d, r] => do pure (← asText d, ← asRevisionId r)
          | _ => unreadable
      let rejected ← member body "rejected" fun x => do
        (← asList x).mapM fun r => do
          unless r.isObject do unreadable
          pure (Rejection.mk (← member r "doc_id" asText) (← member r "rev_id" asRevisionId)
            (← member r "code" asErrorCode))
      pure (.revsAck accepted rejected)
    | "SetCheckpoint" => do
      pure (.setCheckpoint (← member body "checkpoint_id" asText)
        (← member body "sequence" (asNatUpTo u64Max)))
    | "Close" => do
      pure (.close (← member body "code" asErrorCode) (← member body "reason" asText))
    | _ => unreadable
  | _ => unreadable

end Service

end RevSync
