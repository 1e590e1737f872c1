import RevSync.Store.State
import RevSync.Store.Snapshot
import RevSync.Store.Registry
import RevSync.Host.Files
import RevSync.Text.Quoted

/-!
# Databases and where they live

A `Host` holds every database handle opened so far, the directory tree persistent databases are
kept in, and the channels that carry change events to subscribers. Database operations run in
`StoreM`: they read and change the host and may fail with a `StoreError`. A failure keeps the
changes made before it, so a commit whose snapshot cannot be written stays committed in memory,
as it does for a database whose disk fails under it.

A persistent database lives in a directory with two files: `LOCK`, held by one open handle at a
time, and `SNAPSHOT`, the CBOR encoding of the whole state, rewritten on every commit by writing
`SNAPSHOT.tmp` and moving it over the old one.
-/

namespace RevSync

/-- One subscriber's queue of change events. The sending side goes away when the database
closes or is released; the receiving side when the subscriber lets go. -/
structure Channel where
  queue : List ChangeEvent := []
  senderAlive : Bool := true
  receiverAlive : Bool := true
  deriving Inhabited

/-- A database handle. -/
structure Database where
  name : String
  config : StoreConfig
  /-- The directory a persistent database was opened from. -/
  location : Option String := none
  /-- Whether the handle still holds its directory and the directory's lock. -/
  holdsDir : Bool := false
  state : StoreState
  isOpen : Bool := true
  /-- The channels of the subscribers, in subscription order. -/
  subscribers : List Nat := []
  registry : Registry := {}
  /-- Whether every owner let go of the handle. -/
  released : Bool := false
  deriving Inhabited

namespace Database

/-- Whether the handle holds the lock of a directory. -/
def locks (d : Database) (dir : String) : Bool :=
  !d.released && d.holdsDir && d.location == some (Files.normalize dir)

/-- Whether the database keeps its state in a directory. -/
def persistent (d : Database) : Bool := d.holdsDir && d.location.isSome

/-- The handle's debugging text. -/
def describe (d : Database) : String :=
  "Database \x7b name: " ++ Text.quote d.name ++ ", is_open: " ++ toString d.isOpen ++
    ", document_count: " ++ toString d.state.documentCount ++ ", last_sequence: " ++
    toString d.state.lastSequence ++ ", .. \x7d"

end Database

/-- Every database handle, the files, and the subscribers' channels. -/
structure Host where
  files : Files := {}
  databases : Array Database := #[]
  channels : Array Channel := #[]
  /-- How many UUIDs were made so far. -/
  minted : Nat := 0
  deriving Inhabited

/-- Operations on databases. -/
abbrev StoreM := ExceptT StoreError (StateM Host)

namespace Host

/-- The handle with a number. -/
def database (h : Nat) : StoreM Database := do
  pure ((← get).databases.getD h default)

/-- Changes the handle with a number. -/
def modifyDatabase (h : Nat) (f : Database → Database) : StoreM Unit :=
  modify fun w => { w with databases := w.databases.modify h f }

/-- Changes the channel with a number. -/
def modifyChannel (c : Nat) (f : Channel → Channel) : StoreM Unit :=
  modify fun w => { w with channels := w.channels.modify c f }

/-- Fails with the error of a failed result. -/
def lift {α : Type} (x : Except StoreError α) : StoreM α :=
  match x with
  | .ok a => pure a
  | .error e => throw e

/-- Fails with an I/O error. -/
def liftIo {α : Type} (x : Except IoError α) : StoreM α :=
  match x with
  | .ok a => pure a
  | .error e => throw (.io e)

/-- A fresh version-4 UUID; each one is different. -/
def freshUuid : StoreM Uuid := do
  let w ← get
  set { w with minted := w.minted + 1 }
  let digest := sha256 ("database uuid " ++ toString w.minted).toUTF8
  let b := (digest.extract 0 16).toList.toArray
  let b := b.modify 6 fun x => (x &&& 0x0f) ||| 0x40
  let b := b.modify 8 fun x => (x &&& 0x3f) ||| 0x80
  pure ⟨ByteArray.mk b⟩

/-- Replaces the file tree. -/
def setFiles (fs : Files) : StoreM Unit := modify fun w => { w with files := fs }

/-- Writes a snapshot into a directory: first to `SNAPSHOT.tmp`, then moved over `SNAPSHOT`. -/
def writeSnapshot (dir : String) (s : StoreState) : StoreM Unit := do
  let temp := Files.join dir "SNAPSHOT.tmp"
  setFiles (← liftIo ((← get).files.write temp s.toCbor))
  setFiles (← liftIo ((← get).files.rename temp (Files.join dir "SNAPSHOT")))

/-- Writes a database's state to its directory, if it has one. -/
def persist (h : Nat) : StoreM Unit := do
  let d ← database h
  match d.location with
  | some dir => if d.holdsDir then writeSnapshot dir d.state
  | none => pure ()

/-- Fails unless the database is open. -/
def ensureOpen (h : Nat) : StoreM Unit := do
  if !(← database h).isOpen then throw .databaseClosed

/-- Delivers an event to every subscriber still listening, forgetting the others. -/
def emit (h : Nat) (e : ChangeEvent) : StoreM Unit := do
  let d ← database h
  let w ← get
  let listening := d.subscribers.filter fun c => (w.channels.getD c default).receiverAlive
  for c in listening do
    modifyChannel c fun ch => { ch with queue := ch.queue ++ [e] }
  modifyDatabase h fun d => { d with subscribers := listening }

/-- Stores a commit: the new state, written to disk, then announced. -/
def commit (h : Nat) (c : Commit) : StoreM Document := do
  modifyDatabase h fun d => { d with state := c.state }
  persist h
  emit h c.event
  pure c.doc

/-- Opens a new in-memory database. -/
def openInMemory (name : String) : StoreM Nat := do
  let config : StoreConfig := {}
  let uuid ← freshUuid
  let d : Database := { name, config, state := StoreState.fresh config.formatVersion uuid }
  let w ← get
  set { w with databases := w.databases.push d }
  pure w.databases.size

/-- The name a persistent database takes from its directory. -/
def nameOf (dir : String) : String :=
  match (dir.splitOn "/").reverse.filter (fun c => c != "" && c != ".") with
  | ".." :: _ => "db"
  | c :: _ => c
  | [] => "db"

/-- Makes sure a database directory is there, creating it when the configuration allows;
`shown` is how the directory is written in messages. -/
def ensureDir (dir shown : String) (config : StoreConfig) : StoreM Unit := do
  let fs := (← get).files
  if !fs.exists? dir then
    if config.createIfMissing then setFiles (← liftIo (fs.createDirAll dir))
    else throw (.invalidFormat ("database directory does not exist: " ++ shown))

/-- Takes the lock file of a database directory, which must be a directory. -/
def lockDir (dir shown : String) : StoreM Unit := do
  if !(← get).files.isDirectory dir then
    throw (.invalidFormat ("path is not a directory: " ++ shown))
  setFiles (← liftIo ((← get).files.touch (Files.join dir "LOCK")))

/-- The state a snapshot file holds; an empty file holds none. -/
def readSnapshot (path : String) : StoreM (Option StoreState) := do
  let data ← liftIo ((← get).files.read path)
  if data.isEmpty then return none
  match StoreState.ofCbor? data with
  | some s => pure (some s)
  | none => throw (.invalidFormat "corrupt snapshot")

/-- The state a database starts with: the one read, if its format is this configuration's, or a
new one, then written into the directory. -/
def startState (dir : String) (config : StoreConfig) : Option StoreState → StoreM StoreState
  | some s => do
    if s.formatVersion.1 != config.formatVersion.1 then
      throw (.invalidFormat ("unsupported format version " ++ toString s.formatVersion.1 ++
        "." ++ toString s.formatVersion.2))
    pure s
  | none => do
    let s := StoreState.fresh config.formatVersion (← freshUuid)
    writeSnapshot dir s
    pure s

/-- The state a database directory keeps in its snapshot, or a new one, then written there. -/
def loadState (dir : String) (config : StoreConfig) : StoreM StoreState := do
  let snapshotPath := Files.join dir "SNAPSHOT"
  let isNew := !(← get).files.exists? snapshotPath
  if !config.createIfMissing && isNew then
    throw (.invalidFormat "database does not exist and create_if_missing is false")
  if config.errorIfExists && !isNew then
    throw (.invalidFormat "database already exists and error_if_exists is true")
  startState dir config (← if isNew then pure none else readSnapshot snapshotPath)

/-- Opens the database kept in a directory; `shown` is how the directory is written in
messages. -/
def openDir (dir shown : String) (config : StoreConfig) : StoreM Nat := do
  ensureDir dir shown config
  lockDir dir shown
  if (← get).databases.any (·.locks dir) then throw .databaseLocked
  let state ← loadState dir config
  let d : Database :=
    { name := nameOf dir, config, location := some (Files.normalize dir), holdsDir := true,
      state }
  let w ← get
  set { w with databases := w.databases.push d }
  pure w.databases.size

/-- The live document with an id. -/
def get? (h : Nat) (id : String) : StoreM (Option Document) := do
  ensureOpen h
  pure ((← database h).state.get id)

/-- The stored revision of a document, tombstones included. -/
def current? (h : Nat) (id : String) : StoreM (Option Revision) := do
  ensureOpen h
  pure ((← database h).state.current id)

/-- Saves a document. -/
def save (h : Nat) (doc : Document) (c : Concurrency) : StoreM Document := do
  lift (validateDocumentId doc.id)
  ensureOpen h
  let d ← database h
  commit h (← lift (d.state.save d.config.historyLimit doc c))

/-- Deletes a live document. -/
def delete (h : Nat) (id : String) : StoreM Document := do
  ensureOpen h
  let d ← database h
  commit h (← lift (d.state.delete d.config.historyLimit id))

/-- Purges a document. -/
def purge (h : Nat) (id : String) : StoreM Unit := do
  ensureOpen h
  let (s, e) ← lift ((← database h).state.purge id)
  modifyDatabase h fun d => { d with state := s }
  persist h
  emit h e

/-- The ids of the live documents, in id order. -/
def documentIds (h : Nat) : StoreM (List String) := do
  ensureOpen h
  pure (← database h).state.documentIds

/-- The revisions committed after a sequence. -/
def changesSince (h : Nat) (since limit : Nat) : StoreM (List Revision) := do
  ensureOpen h
  pure ((← database h).state.changesSince since limit)

/-- Applies a peer's revision. -/
def apply (h : Nat) (incoming : Revision) : StoreM ApplyOutcome := do
  lift (validateDocumentId incoming.docId)
  ensureOpen h
  let d ← database h
  match d.state.apply d.config.historyLimit incoming with
  | .inl o => pure o
  | .inr (forward, c) =>
    let doc ← commit h c
    pure (if forward then .fastForwarded doc else .inserted doc)

/-- Stores the resolution of a conflict. -/
def saveResolved (h : Nat) (expected : RevisionId) (remote : Revision) (r : Resolution) :
    StoreM Document := do
  ensureOpen h
  let d ← database h
  commit h (← lift (d.state.saveResolved d.config.historyLimit expected remote r))

/-- The revisions a checkpoint's peer is not known to have. -/
def unsynced (h : Nat) (cp : String) : StoreM (List Revision) := do
  ensureOpen h
  pure ((← database h).state.unsynced cp)

/-- The revision of one document, unless the checkpoint's peer is known to have it. -/
def unsyncedOne (h : Nat) (cp id : String) : StoreM (Option Revision) := do
  ensureOpen h
  pure ((← database h).state.unsyncedOne cp id)

/-- A checkpoint. -/
def checkpoint (h : Nat) (cp : String) : StoreM Checkpoint := do
  ensureOpen h
  pure ((← database h).state.checkpoint cp)

/-- Changes a checkpoint and writes it to disk. -/
def updateCheckpoint (h : Nat) (cp : String) (f : Checkpoint → Checkpoint) :
    StoreM Checkpoint := do
  ensureOpen h
  let (c, s) := (← database h).state.updateCheckpoint cp f
  modifyDatabase h fun d => { d with state := s }
  persist h
  pure c

/-- Forgets a checkpoint. -/
def resetCheckpoint (h : Nat) (cp : String) : StoreM Unit := do
  ensureOpen h
  match (← database h).state.resetCheckpoint cp with
  | some s =>
    modifyDatabase h fun d => { d with state := s }
    persist h
  | none => pure ()

/-- The sequence a peer recorded. -/
def peerCheckpoint (h : Nat) (cp : String) : StoreM (Option Nat) := do
  ensureOpen h
  pure ((← database h).state.peerCheckpoint cp)

/-- Records the sequence a peer reached. -/
def setPeerCheckpoint (h : Nat) (cp : String) (sequence : Nat) : StoreM Unit := do
  ensureOpen h
  modifyDatabase h fun d => { d with state := d.state.setPeerCheckpoint cp sequence }
  persist h

/-- Opens a channel that receives the database's future changes. -/
def subscribe (h : Nat) : StoreM Nat := do
  let w ← get
  let c := w.channels.size
  set { w with channels := w.channels.push {} }
  modifyDatabase h fun d => { d with subscribers := d.subscribers ++ [c] }
  pure c

/-- Takes every event queued on a channel; also whether the sending side is gone. -/
def drain (c : Nat) : StoreM (List ChangeEvent × Bool) := do
  let ch := (← get).channels.getD c default
  modifyChannel c fun ch => { ch with queue := [] }
  pure (ch.queue, !ch.senderAlive)

/-- The subscriber lets go of a channel. -/
def dropReceiver (c : Nat) : StoreM Unit :=
  modifyChannel c fun ch => { ch with queue := [], receiverAlive := false }

/-- Closes every channel of a database. -/
def closeFeed (h : Nat) : StoreM Unit := do
  for c in (← database h).subscribers do
    modifyChannel c fun ch => { ch with senderAlive := false }
  modifyDatabase h fun d => { d with subscribers := [] }

/-- Registers an active resource; refused once the database is closed or closing. -/
def register (h : Nat) (resource : Nat) : StoreM Nat := do
  ensureOpen h
  match (← database h).registry.register resource with
  | some (token, r) =>
    modifyDatabase h fun d => { d with registry := r }
    pure token
  | none => throw .databaseClosed

/-- Removes a registration; whether it was there. -/
def unregister (h : Nat) (token : Nat) : StoreM Bool := do
  let (found, r) := (← database h).registry.unregister token
  modifyDatabase h fun d => { d with registry := r }
  pure found

/-- The first half of closing: unless the database is closed already, refuses further
registrations and yields the registered resources, which must be stopped before
`finishClose`. -/
def beginClose (h : Nat) : StoreM (Option (List Nat)) := do
  let d ← database h
  if !d.isOpen then pure none
  else
    let (resources, r) := d.registry.beginClosing
    modifyDatabase h fun d => { d with registry := r }
    pure (some resources)

/-- The second half of closing: forgets the registrations, writes the state a last time, closes
the subscribers' channels and marks the database closed. -/
def finishClose (h : Nat) : StoreM Unit := do
  modifyDatabase h fun d => { d with registry := d.registry.clear }
  if (← database h).isOpen then
    persist h
    closeFeed h
    modifyDatabase h fun d => { d with isOpen := false }

/-- Lets go of a database's directory and its lock. -/
def releaseDir (h : Nat) : StoreM Unit :=
  modifyDatabase h fun d => { d with holdsDir := false }

/-- Removes a deleted database's directory. -/
def removeDir (h : Nat) : StoreM Unit := do
  let d ← database h
  if d.holdsDir then
    releaseDir h
    match d.location with
    | some dir => setFiles (← liftIo ((← get).files.removeDirAll dir))
    | none => pure ()

/-- Marks a handle as let go of by every owner: its channels close and its directory is
released. -/
def release (h : Nat) : StoreM Unit := do
  closeFeed h
  releaseDir h
  modifyDatabase h fun d => { d with released := true }

end Host

end RevSync
