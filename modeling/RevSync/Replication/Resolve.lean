import RevSync.Store.Host
import RevSync.Replication.Error

/-!
# Conflict resolution

A conflict arises when a pulled revision and the local revision of the same document lie on
diverging branches. A resolver picks the content to keep, and the pick is stored against the
local revision it was computed from. Returning the remote document unchanged keeps the remote
revision as it is; anything else becomes a merge revision descending from both sides.

If the local document moved on while the resolver ran, resolution looks again: when the new
local revision already descends from the remote one there is nothing left to do; when the
document has gone, the remote revision is simply applied; otherwise the resolver is asked once
more against the new local revision. After `maxResolveAttempts` tries it gives up with a
conflict.
-/

namespace RevSync

/-- The revisions involved in a conflict. -/
structure Conflict where
  docId : String
  /-- The local revision when the conflict was found. -/
  localDoc : Document
  /-- The incoming remote revision. -/
  remote : Document
  /-- The latest local revision, when someone else wrote one after `localDoc` was read. -/
  current : Option Document
  deriving Inhabited

/-- Revisions in order, a missing revision before every other. -/
def revisionBefore : Option RevisionId → Option RevisionId → Bool
  | none, some _ => true
  | some a, some b => decide (a < b)
  | _, none => false

namespace Conflict

/-- The standard choice: a deletion wins over an edit; otherwise the higher revision wins, and a
tie keeps the local side. The local side is the latest local revision when there is one. -/
def standardChoice (c : Conflict) : Document :=
  let l := c.current.getD c.localDoc
  let r := c.remote
  if r.deleted != l.deleted then (if r.deleted then r else l)
  else if revisionBefore l.revision r.revision then r
  else l

end Conflict

/-- Whether a chosen document is the remote revision exactly as it came. -/
def isUnchangedRemote (chosen : Document) (remote : Revision) : Bool :=
  chosen.revision == some remote.revId && chosen.deleted == remote.deleted &&
    (remote.deleted || Json.sameFields chosen.properties remote.body)

/-- How often resolution is tried while the local document keeps changing. -/
def maxResolveAttempts : Nat := 5

section

variable {m : Type → Type} [Monad m]

/-- Resolves a conflict between `remote` and the local revision `localRev` of database `h` and
stores the result. The resolver runs in `m`, which can run store operations through `run`. -/
def resolveConflict (run : {α : Type} → StoreM α → m (Except StoreError α)) (h : Nat)
    (resolver : Conflict → m Document) (remote localRev : Revision) :
    m (Except ReplicationError Document) :=
  attempt maxResolveAttempts localRev none
where
  /-- One try against the local revision `base`, with `fuel` tries left. -/
  attempt : Nat → Revision → Option Document → m (Except ReplicationError Document)
    | 0, _, _ => pure (.error (.conflict remote.docId))
    | fuel + 1, base, current => do
      let remoteDoc := Document.ofRevision remote
      let chosen ← resolver
        { docId := remote.docId, localDoc := Document.ofRevision localRev, remote := remoteDoc,
          current }
      let resolution := if isUnchangedRemote chosen remote then Resolution.remote
        else .merged chosen
      match ← run (Host.saveResolved h base.revId remote resolution) with
      | .ok doc => pure (.ok doc)
      | .error e =>
        if !e.isConflict then pure (.error (ReplicationError.ofStore e))
        else
        match ← run (Host.current? h remote.docId) with
        | .error e => pure (.error (ReplicationError.ofStore e))
        | .ok (some latest) =>
          if latest.descendsFrom remote.revId then pure (.ok (Document.ofRevision latest))
          else attempt fuel latest (some (Document.ofRevision latest))
        | .ok none =>
          match ← run (Host.apply h remote) with
          | .error e => pure (.error (ReplicationError.ofStore e))
          | .ok (.inserted doc) | .ok (.fastForwarded doc) => pure (.ok doc)
          | .ok .alreadyKnown => pure (.ok remoteDoc)
          | .ok (.conflict l) => attempt fuel l (some (Document.ofRevision l))

end

end RevSync
