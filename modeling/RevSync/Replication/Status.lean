import RevSync.Replication.Error

/-!
# Replicator status

What a replicator is doing, how far each direction has come, and the last error. Progress counts
revisions: those known to need transferring and those transferred. A replicator also reports,
batch by batch, which documents it pushed or pulled and whether each failed.
-/

namespace RevSync

/-- What a replicator is doing. -/
inductive Activity where
  | stopped
  | offline
  | connecting
  | idle
  | busy
  deriving DecidableEq, Repr, Inhabited

namespace Activity

/-- The activity's name. -/
def name : Activity → String
  | .stopped => "Stopped"
  | .offline => "Offline"
  | .connecting => "Connecting"
  | .idle => "Idle"
  | .busy => "Busy"

/-- Every activity but `stopped` is running. -/
def isRunning (a : Activity) : Bool := a != .stopped

end Activity

/-- Revisions transferred out of those known to need it. -/
structure Progress where
  completed : Nat := 0
  total : Nat := 0
  deriving DecidableEq, Repr, Inhabited

namespace Progress

/-- Everything known has been transferred. -/
def isComplete (p : Progress) : Bool := p.completed ≥ p.total

/-- Both directions together. -/
def add (a b : Progress) : Progress := ⟨a.completed + b.completed, a.total + b.total⟩

end Progress

/-- A snapshot of a replicator's state. -/
structure ReplicatorStatus where
  activity : Activity := .stopped
  progress : Progress := {}
  pushProgress : Progress := {}
  pullProgress : Progress := {}
  error : Option ReplicationError := none
  deriving DecidableEq, Repr, Inhabited

namespace ReplicatorStatus

/-- The status of a replicator that never ran. -/
def stopped : ReplicatorStatus := {}

/-- Sets both directions' progress and their sum. -/
def withProgress (s : ReplicatorStatus) (push pull : Progress) : ReplicatorStatus :=
  { s with pushProgress := push, pullProgress := pull, progress := push.add pull }

end ReplicatorStatus

/-- Which way documents went. -/
inductive TransferDirection where
  | push
  | pull
  deriving DecidableEq, Repr, Inhabited

/-- The outcome for one document of a batch. -/
structure ReplicatedDocument where
  id : String
  deleted : Bool
  error : Option ReplicationError := none
  deriving DecidableEq, Repr, Inhabited

/-- A batch of documents pushed or pulled. -/
structure DocumentBatch where
  direction : TransferDirection
  documents : List ReplicatedDocument
  deriving DecidableEq, Repr, Inhabited

/-- What a replicator tells its listeners. -/
inductive ReplicatorEvent where
  | status (s : ReplicatorStatus)
  | documents (b : DocumentBatch)
  deriving Inhabited

end RevSync
