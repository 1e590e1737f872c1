import RevSync.Revision.Id
import RevSync.Codec.Uuid

/-!
# Checkpoints

A checkpoint is the local record of one replication relationship: how far the peer's changes
have been pulled, and which revision of each document the peer is known to have. A document is
waiting to be pushed while its current revision is not the one recorded here.

A checkpoint's id is `cp-` and the first 40 hex digits of the SHA-256 of the local database's
UUID bytes followed by the text naming the remote endpoint.
-/

namespace RevSync

/-- What is known of one peer. -/
structure Checkpoint where
  pullSequence : Nat := 0
  remoteRevisions : TextMap RevisionId := []
  deriving Inhabited

namespace Checkpoint

/-- Whether the peer is known to have this revision of the document. -/
def isKnown (cp : Checkpoint) (docId : String) (revId : RevisionId) : Bool :=
  cp.remoteRevisions.get? docId == some revId

/-- Records that the peer has this revision of the document. -/
def markKnown (cp : Checkpoint) (docId : String) (revId : RevisionId) : Checkpoint :=
  { cp with remoteRevisions := cp.remoteRevisions.insert docId revId }

/-- Forgets what the peer has of a document. -/
def forget (cp : Checkpoint) (docId : String) : Checkpoint :=
  { cp with remoteRevisions := cp.remoteRevisions.erase docId }

end Checkpoint

/-- The checkpoint id of a database and an endpoint key. -/
def checkpointId (database : Uuid) (endpointKey : String) : String :=
  "cp-" ++ String.ofList ((Hex.encode (sha256 (database.bytes ++ endpointKey.toUTF8))).toList.take 40)

end RevSync
