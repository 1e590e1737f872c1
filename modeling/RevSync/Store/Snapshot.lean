import RevSync.Store.State
import RevSync.Revision.Encoding

/-!
# Snapshots

A persistent database keeps its whole state in one CBOR record, rewritten on every commit:
format version (a pair), UUID (16 bytes), last sequence, documents (a map from id to revision),
checkpoints (a map from id to a record of pull sequence and known revisions) and peer
checkpoints (a map from id to sequence). Reading needs every field; bytes after the record are
ignored.
-/

namespace RevSync

namespace Checkpoint

/-- A checkpoint as a CBOR record. -/
def toCbor (c : Checkpoint) : ByteArray :=
  Cbor.record [("pull_sequence", Cbor.unsigned c.pullSequence),
    ("remote_revisions", Cbor.record (c.remoteRevisions.map fun (d, r) => (d, Cbor.text r.toText)))]

end Checkpoint

namespace StoreState

/-- The state as a snapshot record. -/
def toCbor (s : StoreState) : ByteArray :=
  Cbor.record [
    ("format_version", Cbor.array [Cbor.unsigned s.formatVersion.1, Cbor.unsigned s.formatVersion.2]),
    ("uuid", Cbor.bytes s.uuid.bytes), ("last_sequence", Cbor.unsigned s.lastSequence),
    ("documents", Cbor.record (s.documents.map fun (k, r) => (k, r.toCbor))),
    ("checkpoints", Cbor.record (s.checkpoints.map fun (k, c) => (k, c.toCbor))),
    ("peer_checkpoints", Cbor.record (s.peerCheckpoints.map fun (k, n) => (k, Cbor.unsigned n)))]

/-- The fields of a snapshot found so far while reading. -/
structure Parts where
  formatVersion : Option (Nat × Nat) := none
  uuid : Option Uuid := none
  lastSequence : Option Nat := none
  documents : Option (TextMap Revision) := none
  checkpoints : Option (TextMap Checkpoint) := none
  peerCheckpoints : Option (TextMap Nat) := none

end StoreState

namespace Cbor

namespace Read

section
variable (b : ByteArray)

/-- Reads field `i` of a checkpoint. -/
def checkpointField (p : Nat × TextMap RevisionId × List Nat) (i depth pos : Nat) :
    Option ((Nat × TextMap RevisionId × List Nat) × Nat) :=
  match i with
  | 0 => (fun (v, q) => ((v, p.2.1, 0 :: p.2.2), q)) <$> natUpTo b u64Max pos
  | _ => (fun (v, q) => ((p.1, v, 1 :: p.2.2), q)) <$>
      textMap b (fun _ => revisionId b) depth pos

/-- A checkpoint record. -/
def checkpoint (depth pos : Nat) : Option (Checkpoint × Nat) := do
  let ((n, m, found), q) ← record b ["pull_sequence", "remote_revisions"] (checkpointField b)
    (0, [], []) depth pos
  if found.contains 0 ∧ found.contains 1 then some ({ pullSequence := n, remoteRevisions := m }, q)
  else none

/-- Reads field `i` of a snapshot. -/
def snapshotField (p : StoreState.Parts) (i depth pos : Nat) : Option (StoreState.Parts × Nat) :=
  match i with
  | 0 => do
    let (xs, q) ← tuple b 2 (fun _ => natUpTo b 65535) depth pos
    match xs with
    | [major, minor] => some ({ p with formatVersion := some (major, minor) }, q)
    | _ => none
  | 1 => (fun (v, q) => ({ p with uuid := some v }, q)) <$> uuid b depth pos
  | 2 => (fun (v, q) => ({ p with lastSequence := some v }, q)) <$> natUpTo b u64Max pos
  | 3 => (fun (v, q) => ({ p with documents := some v }, q)) <$> textMap b (revision b) depth pos
  | 4 => (fun (v, q) => ({ p with checkpoints := some v }, q)) <$>
      textMap b (checkpoint b) depth pos
  | _ => (fun (v, q) => ({ p with peerCheckpoints := some v }, q)) <$>
      textMap b (fun _ => natUpTo b u64Max) depth pos

end

end Read

end Cbor

namespace StoreState

/-- Reads a snapshot. -/
def ofCbor? (b : ByteArray) : Option StoreState := do
  let (p, _) ← Cbor.Read.record b ["format_version", "uuid", "last_sequence", "documents",
    "checkpoints", "peer_checkpoints"] (Cbor.Read.snapshotField b) {} Cbor.Read.maxNesting 0
  match p.formatVersion, p.uuid, p.lastSequence, p.documents, p.checkpoints, p.peerCheckpoints with
  | some formatVersion, some uuid, some lastSequence, some documents, some checkpoints,
    some peerCheckpoints =>
    some { formatVersion, uuid, lastSequence, documents, checkpoints, peerCheckpoints }
  | _, _, _, _, _, _ => none

end StoreState

end RevSync
