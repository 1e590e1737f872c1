import RevSync.Replication.Error
import RevSync.Store.Document
import RevSync.Store.Checkpoint
import RevSync.Store.Change

/-!
# Answers as JSON

How the command service writes the library's values. Errors are `{"error": kind, "message":
text}`; a message is left out where its text comes from a lower layer rather than from this
library (I/O and codec details, system error numbers), so that answers do not depend on the
host. Documents, revisions and checkpoints are written with the field names of their stored
form.
-/

namespace RevSync

namespace Service

/-- An error answer with a kind and, optionally, a message. -/
def errorJson (kind : String) (message : Option String) : Json :=
  match message with
  | some m => Json.object [("error", .str kind), ("message", .str m)]
  | none => Json.object [("error", .str kind)]

/-- The answer for a request that cannot be understood. -/
def badInput : Json := Json.object [("error", .str "bad_input")]

/-- Whether a text holds a system error number. -/
def mentionsSystemError (s : String) : Bool := (s.splitOn "(os error ").length > 1

/-- The prefix a corrupt-snapshot message is cut to. -/
def corruptSnapshot : String := "invalid database format: corrupt snapshot"

/-- A store error: I/O and codec errors without their message, a corrupt snapshot's message cut
to its first words. -/
def storeErrorJson (e : StoreError) : Json :=
  match e with
  | .io _ | .codec _ => errorJson e.kindName none
  | _ =>
    let m := e.message
    errorJson e.kindName (some (if m.startsWith corruptSnapshot then corruptSnapshot else m))

/-- A replication error with its message, unless the message holds a system error number. -/
def replicationErrorJson (e : ReplicationError) : Json :=
  let m := e.message
  errorJson e.kindName (if mentionsSystemError m then none else some m)

/-- A protocol error: encoding and decoding errors without their message. -/
def protocolErrorJson (e : ProtocolError) : Json :=
  match e with
  | .encode _ | .decode _ => errorJson e.kindName none
  | _ => errorJson e.kindName (some e.message)

/-- Whether a TLS error's message is this library's own wording. -/
def tlsMessageKept : TlsError → Bool
  | .certificateGeneration m => m == "common name is required" || m == "expiration must be in the future"
  | .invalidCertificate m => m == "empty certificate chain" || m.startsWith "invalid identity label: "
  | .invalidPrivateKey m => m == "no private key in PEM data"
  | .labelExists _ | .identityNotFound _ | .decryption _ => true
  | .codec m => m == "not an identity bundle" || m.startsWith "unsupported bundle version "
  | _ => false

/-- A TLS error, with its message only where it is this library's own wording. -/
def tlsErrorJson (e : TlsError) : Json :=
  errorJson e.kindName (if tlsMessageKept e then some e.message else none)

/-- The properties of a replication error: kind, message and the three families. -/
def replicationPropertiesJson (e : ReplicationError) : Json :=
  Json.object [("kind", .str e.kindName), ("message", .str e.message),
    ("transient", .bool e.isTransient), ("retry_one_shot", .bool (e.isRetryable false)),
    ("retry_continuous", .bool (e.isRetryable true)), ("auth_failure", .bool e.isAuthFailure)]

/-- A revision id as its text. -/
def revIdJson (r : RevisionId) : Json := .str r.toText

/-- A document: id, revision, sequence, deletion flag and body. -/
def documentJson (d : Document) : Json :=
  Json.object [("id", .str d.id), ("rev", Json.ofOption revIdJson d.revision),
    ("sequence", Json.ofNat d.sequence), ("deleted", .bool d.deleted), ("body", .obj d.properties)]

/-- A revision in its stored form. -/
def revisionJson (r : Revision) : Json :=
  Json.object [("doc_id", .str r.docId), ("rev_id", revIdJson r.revId),
    ("history", .arr (r.history.map revIdJson)), ("deleted", .bool r.deleted),
    ("body", .obj r.body), ("sequence", Json.ofNat r.sequence)]

/-- A checkpoint: pull sequence and the revisions the peer is known to have. -/
def checkpointJson (c : Checkpoint) : Json :=
  Json.object [("pull_sequence", Json.ofNat c.pullSequence),
    ("remote_revisions", .obj (c.remoteRevisions.mapValues revIdJson))]

/-- A change event. -/
def changeJson (e : ChangeEvent) : Json :=
  Json.object [("sequence", Json.ofNat e.sequence), ("doc_id", .str e.docId),
    ("rev_id", Json.ofOption revIdJson e.revId), ("type", .str e.changeType.name),
    ("origin", .str e.origin.name)]

end Service

end RevSync
