import RevSync.Store.Config
import RevSync.Store.Document
import RevSync.Store.Checkpoint
import RevSync.Store.Change

/-!
# Store state

Everything a database holds, as one value: the format version, the database's UUID, the last
sequence number handed out, the current revision of every document (tombstones included), the
checkpoints of the replications it takes part in as the active side, and the sequences its peers
recorded with it as the passive side.

Every operation here is a function from a state to a result and a new state; the commits also
give the change event that subscribers receive. Each commit takes the next sequence number.

* A local write extends the current revision: its id is derived from the current one, its
  history is the current lineage cut to the history limit, and a deletion empties the body.
* Applying a peer's revision inserts it when the document is new, fast-forwards when it descends
  from the local revision, does nothing when the local revision already descends from it, and
  reports a conflict otherwise.
* Storing a resolution replaces the local revision, which must still be the one the resolution was
  computed from: either by the peer's revision (with both histories merged) or by a merge revision
  whose id derives from both.
-/

namespace RevSync

/-- What applying a peer's revision did. -/
inductive ApplyOutcome where
  | inserted (doc : Document)
  | fastForwarded (doc : Document)
  | alreadyKnown
  | conflict (localRevision : Revision)
  deriving Inhabited

/-- How a conflict was resolved. -/
inductive Resolution where
  /-- The peer's revision wins as it is. -/
  | remote
  /-- A new revision with this content merges both branches. -/
  | merged (doc : Document)
  deriving Inhabited

/-- The content of a database. -/
structure StoreState where
  formatVersion : Nat × Nat
  uuid : Uuid
  lastSequence : Nat := 0
  documents : TextMap Revision := []
  checkpoints : TextMap Checkpoint := []
  peerCheckpoints : TextMap Nat := []
  deriving Inhabited

/-- A committed revision with the state after it and its change event. -/
structure Commit where
  doc : Document
  state : StoreState
  event : ChangeEvent

namespace StoreState

/-- An empty store. -/
def fresh (formatVersion : Nat × Nat) (uuid : Uuid) : StoreState := { formatVersion, uuid }

/-- The stored revision of a document, tombstones included. -/
def current (s : StoreState) (id : String) : Option Revision := s.documents.get? id

/-- The live document with this id. -/
def get (s : StoreState) (id : String) : Option Document :=
  match s.current id with
  | some r => if r.deleted then none else some (Document.ofRevision r)
  | none => none

/-- The live revisions in id order. -/
def live (s : StoreState) : List Revision := s.documents.values.filter (!·.deleted)

/-- The ids of live documents in id order. -/
def documentIds (s : StoreState) : List String := s.live.map (·.docId)

/-- The number of live documents. -/
def documentCount (s : StoreState) : Nat := s.live.length

/-- Orders revisions by sequence, keeping the id order among equal sequences. -/
def bySequence (rs : List Revision) : List Revision := rs.mergeSort fun a b => a.sequence ≤ b.sequence

/-- The stored revisions committed after `since`, oldest first, at most `limit`. -/
def changesSince (s : StoreState) (since limit : Nat) : List Revision :=
  (bySequence (s.documents.values.filter (·.sequence > since))).take limit

/-- Stores a revision under its document id, as the next commit. -/
def commit (s : StoreState) (r : Revision) (origin : ChangeOrigin) : Commit :=
  let event : ChangeEvent :=
    { sequence := r.sequence, docId := r.docId, revId := some r.revId,
      changeType := if r.deleted then .delete else .save, origin }
  { doc := Document.ofRevision r, state := { s with documents := s.documents.insert r.docId r },
    event }

/-- Writes a local revision of `id` on top of the current one, after `check` accepts the current
revision. -/
def writeLocal (s : StoreState) (limit : Nat) (id : String) (deleted : Bool) (body : Fields)
    (check : Option Revision → Except StoreError Unit) : Except StoreError Commit := do
  let cur := s.current id
  check cur
  let history := match cur with
    | some c => c.lineage.take limit
    | none => []
  let body := if deleted then [] else body
  let revId := RevisionId.derive (cur.map (·.revId)) deleted body
  let sequence := s.lastSequence + 1
  let s := { s with lastSequence := sequence }
  pure (s.commit { docId := id, revId, history, deleted, body, sequence } .here)

/-- Saves a document; with `failOnConflict` the stored revision must be the one it was read at. -/
def save (s : StoreState) (limit : Nat) (d : Document) (c : Concurrency) :
    Except StoreError Commit :=
  s.writeLocal limit d.id d.deleted d.properties fun cur =>
    if c == .failOnConflict && cur.map (·.revId) != d.revision then .error (.conflict d.id)
    else .ok ()

/-- Deletes a live document, leaving a tombstone. -/
def delete (s : StoreState) (limit : Nat) (id : String) : Except StoreError Commit :=
  s.writeLocal limit id true [] fun
    | some r => if r.deleted then .error (.documentNotFound id) else .ok ()
    | none => .error (.documentNotFound id)

/-- Removes every trace of a document, tombstone included, also from the checkpoints; this takes
a sequence number too. -/
def purge (s : StoreState) (id : String) : Except StoreError (StoreState × ChangeEvent) :=
  if s.documents.contains id then
    let sequence := s.lastSequence + 1
    let s' := { s with
      documents := s.documents.erase id,
      checkpoints := s.checkpoints.mapValues (·.forget id),
      lastSequence := sequence }
    .ok (s', { sequence, docId := id, revId := none, changeType := .purge, origin := .here })
  else .error (.documentNotFound id)

/-- Commits a peer's revision as the next change, its history cut to the limit. -/
def storeIncoming (s : StoreState) (limit : Nat) (incoming : Revision) : Commit :=
  let sequence := s.lastSequence + 1
  let r : Revision :=
    { docId := incoming.docId, revId := incoming.revId,
      history := mergeHistory incoming.history incoming.revId limit,
      deleted := incoming.deleted, body := if incoming.deleted then [] else incoming.body,
      sequence }
  { s with lastSequence := sequence }.commit r .peer

/-- Applies a peer's revision: either an outcome that changes nothing, or whether it
fast-forwarded (rather than inserted) with the commit. -/
def apply (s : StoreState) (limit : Nat) (incoming : Revision) :
    ApplyOutcome ⊕ (Bool × Commit) :=
  match s.current incoming.docId with
  | some l =>
    if l.descendsFrom incoming.revId then .inl .alreadyKnown
    else if incoming.descendsFrom l.revId then .inr (true, s.storeIncoming limit incoming)
    else .inl (.conflict l)
  | none => .inr (false, s.storeIncoming limit incoming)

/-- Stores a resolution of a conflict with the peer's revision `remote`, computed against the
local revision `expected`. -/
def saveResolved (s : StoreState) (limit : Nat) (expected : RevisionId) (remote : Revision)
    (resolution : Resolution) : Except StoreError Commit :=
  match s.current remote.docId with
  | some l =>
    if l.revId != expected then .error (.conflict remote.docId)
    else
      let sequence := s.lastSequence + 1
      let s := { s with lastSequence := sequence }
      match resolution with
      | .remote =>
        let r := { remote with
          history := mergeHistory (remote.history ++ l.lineage) remote.revId limit,
          sequence, body := if remote.deleted then [] else remote.body }
        .ok (s.commit r .peer)
      | .merged d =>
        let deleted := d.deleted
        let body := if deleted then [] else d.properties
        let revId := RevisionId.deriveMerge l.revId remote.revId deleted body
        let r : Revision :=
          { docId := remote.docId, revId,
            history := mergeHistory (remote.lineage ++ l.lineage) revId limit, deleted, body,
            sequence }
        .ok (s.commit r .here)
  | none => .error (.conflict remote.docId)

/-- The checkpoint with this id, empty when there is none. -/
def checkpoint (s : StoreState) (id : String) : Checkpoint := (s.checkpoints.get? id).getD {}

/-- Whether the checkpoint says the peer has this revision. -/
def knownTo (s : StoreState) (cp : String) (r : Revision) : Bool :=
  match s.checkpoints.get? cp with
  | some c => c.isKnown r.docId r.revId
  | none => false

/-- The stored revisions the peer of a checkpoint is not known to have, tombstones included,
oldest first. -/
def unsynced (s : StoreState) (cp : String) : List Revision :=
  bySequence (s.documents.values.filter fun r => !s.knownTo cp r)

/-- The stored revision of a document, unless the peer is known to have it. -/
def unsyncedOne (s : StoreState) (cp id : String) : Option Revision :=
  (s.current id).filter fun r => !s.knownTo cp r

/-- Changes a checkpoint, creating it empty first when missing. -/
def updateCheckpoint (s : StoreState) (id : String) (f : Checkpoint → Checkpoint) :
    Checkpoint × StoreState :=
  let c := f (s.checkpoint id)
  (c, { s with checkpoints := s.checkpoints.insert id c })

/-- Removes a checkpoint; `none` when there was none. -/
def resetCheckpoint (s : StoreState) (id : String) : Option StoreState :=
  if s.checkpoints.contains id then some { s with checkpoints := s.checkpoints.erase id }
  else none

/-- The sequence a peer recorded under a checkpoint id. -/
def peerCheckpoint (s : StoreState) (id : String) : Option Nat := s.peerCheckpoints.get? id

/-- Records the sequence a peer reached. -/
def setPeerCheckpoint (s : StoreState) (id : String) (sequence : Nat) : StoreState :=
  { s with peerCheckpoints := s.peerCheckpoints.insert id sequence }

end StoreState

end RevSync
