import RevSync.Replication.Passive
import RevSync.Replication.Status
import RevSync.Replication.Resolve
import RevSync.Host.Network

/-!
# Replication sessions

A session is one connection's worth of active replication. It dials the peer, says `hello`, and
on `welcome` runs pull and push over the same connection:

* pulling subscribes to the peer's changes after the pull checkpoint, applies each batch (running
  the conflict resolver where branches diverge), and records how far it got, locally and on the
  peer;
* pushing sends the revisions the peer is not known to have, a batch at a time, and records what
  the peer accepted.

A one-shot session ends once both directions have caught up; a continuous one then waits for
new changes on either side. A peer database of the same host is served by a passive session at
the other end of an in-process pipe. The two sides take turns: whenever the active side waits,
the passive side handles everything sent to it so far. Each side handles its input in order, so
what either of them sees does not depend on how their work interleaves.

Every status change and every transferred batch is recorded as an event for the replicator's
listeners.
-/

namespace RevSync

instance : Inhabited Authenticator := ⟨.none⟩

instance : Inhabited PassiveOptions := ⟨{}⟩

instance : Inhabited PassiveSession := ⟨{ db := 0, options := {} }⟩

/-- A revision sent to the peer and not yet acknowledged. -/
structure InFlight where
  docId : String
  deleted : Bool
  deriving Inhabited

/-- The active side of a session. -/
structure ActiveSession where
  continuous : Bool := false
  pullEnabled : Bool := false
  pullCaughtUp : Bool := false
  /-- Pull checkpoints stay below this peer sequence, so that revisions the pull filter turned
  away are offered again next time. -/
  pullFloor : Option Nat := none
  pull : Progress := {}
  pushEnabled : Bool := false
  /-- Local changes may need pushing. -/
  pushDirty : Bool := true
  /-- The change channel of the local database, for continuous pushes. -/
  feed : Option Nat := none
  inFlight : Option (List InFlight) := none
  /-- Revisions the peer refused, skipped until the document changes. -/
  rejected : List (String × RevisionId × ReplicationError) := []
  push : Progress := {}
  deriving Inhabited

/-- The in-process pipe between the two sides. -/
structure Pipe where
  toPassive : List Message := []
  toActive : List Message := []
  /-- The active side stopped writing. -/
  activeDone : Bool := false
  /-- The active side let go of the connection; sending to it fails. -/
  activeGone : Bool := false
  /-- The passive side let go of the connection. -/
  passiveDone : Bool := false
  deriving Inhabited

/-- A live session with a database of the same host. -/
structure Session where
  active : ActiveSession := {}
  passive : PassiveSession
  pipe : Pipe := {}
  deriving Inhabited

/-- What a replicator keeps between calls. -/
structure ReplicatorState where
  status : ReplicatorStatus := {}
  /-- Events not yet taken by the listeners, oldest first. -/
  events : List ReplicatorEvent := []
  /-- Whether a run is going on. -/
  running : Bool := false
  /-- Whether a stop was asked for; the run may then only report `stopped`. -/
  stopping : Bool := false
  /-- The registration with the local database during a run. -/
  token : Option Nat := none
  /-- The certificate a TLS peer presented in the last handshake. -/
  serverCertificate : Option ByteArray := none
  /-- The live session of a continuous run. -/
  session : Option Session := none
  /-- Consecutive failed sessions. -/
  failures : Nat := 0
  /-- Every message sent to a peer, oldest first: ghost state, which nothing in a run reads. -/
  transcript : List Message := []
  deriving Inhabited

/-- What running a replicator needs from its surroundings: access to the host, and what calling a
resolver means. -/
structure Runtime (m : Type → Type) (ρ : Type) where
  host : {α : Type} → StateM Host α → m α
  resolve : ρ → Conflict → m Document

/-- A replicator's fixed parts: its runtime, configuration, checkpoint id, and its number as an
active resource of the local database. -/
structure Engine (m : Type → Type) (ρ : Type) where
  runtime : Runtime m ρ
  config : ReplicatorConfig ρ
  checkpointId : String
  resource : Nat

/-- Computations of a replicator. -/
abbrev EngineM (m : Type → Type) := StateT ReplicatorState m

/-- How a session stopped running for now. -/
inductive SessionEnd where
  /-- The session is over, successfully or not; `connected` tells whether the handshake
  succeeded. -/
  | ended (result : Except ReplicationError Unit) (connected : Bool)
  /-- The session waits for something to happen. -/
  | waiting

/-- What the active side finds when it waits. -/
inductive ActiveInput where
  | message (m : Message)
  | closed
  | changes
  | nothing

namespace Engine

variable {m : Type → Type} [Monad m] {ρ : Type} (e : Engine m ρ)

/-- Runs a host computation. -/
def onHost {α : Type} (x : StateM Host α) : EngineM m α := StateT.lift (e.runtime.host x)

/-- Runs a store operation, keeping its error. -/
def store {α : Type} (x : StoreM α) : EngineM m (Except StoreError α) := e.onHost x.run

/-- Changes the status, recording the new one when it differs. -/
def setStatus (f : ReplicatorStatus → ReplicatorStatus) : EngineM m Unit :=
  modify fun r =>
    let s := f r.status
    if s == r.status then r else { r with status := s, events := r.events ++ [.status s] }

/-- Changes the status unless a stop was asked for. -/
def updateStatus (f : ReplicatorStatus → ReplicatorStatus) : EngineM m Unit := do
  if !(← get).stopping then setStatus f

/-- Records a transferred batch. -/
def postDocuments (b : DocumentBatch) : EngineM m Unit :=
  modify fun r => { r with events := r.events ++ [.documents b] }

/-- The live session. -/
def session : EngineM m Session := do pure ((← get).session.getD default)

/-- Changes the live session. -/
def modifySession (f : Session → Session) : EngineM m Unit :=
  modify fun r => { r with session := r.session.map f }

/-- Changes the active side. -/
def modifyActive (f : ActiveSession → ActiveSession) : EngineM m Unit :=
  modifySession fun s => { s with active := f s.active }

/-- The active side. -/
def active : EngineM m ActiveSession := do pure (← session).active

/-- Sends a message to the peer; fails once the peer let go of the connection. -/
def send (msg : Message) : EngineM m (Except ReplicationError Unit) := do
  let s ← session
  if s.passive.isFinished then
    pure (.error (ReplicationError.ofProtocol (.io ⟨.brokenPipe, .none⟩)))
  else
    modifySession fun s => { s with pipe := { s.pipe with toPassive := s.pipe.toPassive ++ [msg] } }
    modify fun r => { r with transcript := r.transcript ++ [msg] }
    pure (.ok ())

/-- Hands the passive side's output to the active side. -/
def deliver (p : PassiveSession) (out : PassiveOutput) : EngineM m Unit := do
  let s ← session
  if s.pipe.activeGone && !out.messages.isEmpty then
    modifySession fun s =>
      { s with passive := p.finish (.failed (ReplicationError.ofProtocol (.io ⟨.brokenPipe, .none⟩))),
               pipe := { s.pipe with passiveDone := true } }
  else
    modifySession fun s =>
      { s with passive := p,
               pipe := { s.pipe with toActive := s.pipe.toActive ++ out.messages,
                                     passiveDone := s.pipe.passiveDone || out.closes || p.isFinished } }

/-- Lets the passive side handle everything waiting for it: messages first, then the changes of a
continuous subscription, and the end of the connection once the active side stopped writing. -/
def exchange : EngineM m Unit := do
  let fuel := 2 * (← session).pipe.toPassive.length + 4
  go fuel
where
  /-- With at most `fuel` steps left. -/
  go : Nat → EngineM m Unit
    | 0 => pure ()
    | fuel + 1 => do
      let s ← session
      if s.passive.isFinished then
        modifySession fun s => { s with pipe := { s.pipe with toPassive := [] } }
      else
        match s.pipe.toPassive with
        | msg :: rest =>
          modifySession fun s => { s with pipe := { s.pipe with toPassive := rest } }
          let (p, out) ← e.onHost (s.passive.handle msg)
          deliver p out
          go fuel
        | [] =>
          if s.passive.hasChanges (← e.onHost get) then
            let (p, out) ← e.onHost s.passive.catchUp
            deliver p out
            go fuel
          else if s.pipe.activeDone then
            modifySession fun s =>
              { s with passive := s.passive.peerClosed, pipe := { s.pipe with passiveDone := true } }

/-- Whether the active side waits on the peer before it takes its next input: when no message is
there, and when the next one is a pulled batch, which is applied off the session's task. -/
def waitsOnPeer : List Message → Bool
  | [] => true
  | .revs _ _ :: _ => true
  | _ => false

/-- What the active side finds: the next message, the end of the connection, local changes to
push, or nothing yet. -/
def takeInput : EngineM m ActiveInput := do
  let s ← session
  match s.pipe.toActive with
  | msg :: rest =>
    modifySession fun s => { s with pipe := { s.pipe with toActive := rest } }
    pure (.message msg)
  | [] =>
    if s.pipe.passiveDone then pure .closed
    else
      match s.active.feed with
      | some c =>
        let h ← e.onHost get
        if (h.channels.getD c default).queue.isEmpty then pure .nothing else pure .changes
      | none => pure .nothing

/-- What the active side gets when it waits. The passive side runs only while the active side
waits on it. -/
def nextInput : EngineM m ActiveInput := do
  if waitsOnPeer (← session).pipe.toActive then e.exchange
  e.takeInput

/-- Reports both directions' progress. -/
def reportProgress : EngineM m Unit := do
  let a ← active
  updateStatus (·.withProgress a.push a.pull)

/-- Whether both directions are done for now. -/
def settled (a : ActiveSession) : Bool :=
  (!a.pullEnabled || a.pullCaughtUp) && (!a.pushEnabled || (a.inFlight.isNone && !a.pushDirty))

/-- Sends the next batch of revisions the peer is not known to have. -/
def pushNextBatch : EngineM m (Except ReplicationError Unit) := do
  let a ← active
  match ← e.store (Host.unsynced e.config.database e.checkpointId) with
  | .error err => pure (.error (ReplicationError.ofStore err))
  | .ok revs =>
    let refused (r : Revision) : Bool := a.rejected.any fun (d, rid, _) => d == r.docId && rid == r.revId
    let batch := ((revs.filter fun r => !refused r).filter (admits e.config.pushFilter)).take
      e.config.batchSize
    match batch.getLast? with
    | none =>
      modifyActive fun a => { a with pushDirty := false }
      pure (.ok ())
    | some last =>
      let flight := batch.map fun r => (⟨r.docId, r.deleted⟩ : InFlight)
      modifyActive fun a =>
        { a with push := { a.push with total := a.push.total + batch.length }, inFlight := some flight }
      reportProgress
      send (.revs batch last.sequence)

/-- Records pull progress locally and on the peer; the recorded sequence stays below the lowest
sequence the pull filter turned away. -/
def savePullSequence (sequence : Nat) (known : List (String × RevisionId)) :
    EngineM m (Except ReplicationError Unit) := do
  let a ← active
  let sequence := match a.pullFloor with
    | some floor => min sequence (floor - 1)
    | none => sequence
  let change (c : Checkpoint) : Checkpoint :=
    known.foldl (fun c (d, r) => c.markKnown d r)
      { c with pullSequence := max c.pullSequence sequence }
  match ← e.store (Host.updateCheckpoint e.config.database e.checkpointId change) with
  | .error err => pure (.error (ReplicationError.ofStore err))
  | .ok _ => send (.setCheckpoint e.checkpointId sequence)

/-- Calls the configured resolver, or makes the standard choice. -/
def resolver (c : Conflict) : m Document :=
  match e.config.resolver with
  | some r => e.runtime.resolve r c
  | none => pure c.standardChoice

/-- Applies pulled revisions, resolving conflicts: the outcome per document, the revisions the
peer is now known to have, and the lowest sequence the pull filter turned away. -/
def applyPulled (revisions : List Revision) :
    EngineM m (Except ReplicationError
      (List ReplicatedDocument × List (String × RevisionId) × Option Nat)) := do
  let db := e.config.database
  let mut documents : List ReplicatedDocument := []
  let mut known : List (String × RevisionId) := []
  let mut floor : Option Nat := none
  for r in revisions do
    if !admits e.config.pullFilter r then
      floor := some (match floor with
        | some f => min f r.sequence
        | none => r.sequence)
      continue
    known := known ++ [(r.docId, r.revId)]
    match ← e.store (Host.apply db r) with
    | .error err => return .error (ReplicationError.ofStore err)
    | .ok (.conflict l) =>
      let outcome ← StateT.lift
        (resolveConflict (fun x => e.runtime.host x.run) db e.resolver r l)
      match outcome with
      | .ok _ => documents := documents ++ [⟨r.docId, r.deleted, none⟩]
      | .error (.conflict d) => documents := documents ++ [⟨r.docId, r.deleted, some (.conflict d)⟩]
      | .error err => return .error err
    | .ok _ => documents := documents ++ [⟨r.docId, r.deleted, none⟩]
  pure (.ok (documents, known, floor))

/-- Handles a pulled batch. -/
def receiveRevs (revisions : List Revision) (sequence : Nat) :
    EngineM m (Except ReplicationError Unit) := do
  let count := revisions.length
  modifyActive fun a => { a with pull := { a.pull with total := a.pull.total + count } }
  reportProgress
  match ← e.applyPulled revisions with
  | .error err => pure (.error err)
  | .ok (documents, known, floor) =>
    modifyActive fun a => { a with
      pullFloor := match floor, a.pullFloor with
        | some f, some g => some (min f g)
        | some f, none => some f
        | none, g => g,
      pull := { a.pull with completed := a.pull.completed + count } }
    reportProgress
    if !documents.isEmpty then postDocuments ⟨.pull, documents⟩
    e.savePullSequence sequence known

/-- Handles the peer's acknowledgement of the batch in flight. -/
def receiveAck (accepted : List (String × RevisionId)) (rejected : List Rejection) :
    EngineM m (Except ReplicationError Unit) := do
  let inFlight := (← active).inFlight.getD []
  modifyActive fun a => { a with inFlight := none }
  let deletedOf (d : String) : Bool := inFlight.any fun f => f.docId == d && f.deleted
  if let some r := rejected.find? (·.code == .forbidden) then
    return .error (.httpForbidden ("peer refused " ++ r.docId))
  let mark (c : Checkpoint) : Checkpoint := accepted.foldl (fun c (d, r) => c.markKnown d r) c
  match ← e.store (Host.updateCheckpoint e.config.database e.checkpointId mark) with
  | .error err => return .error (ReplicationError.ofStore err)
  | .ok _ => pure ()
  let mut documents : List ReplicatedDocument := []
  let mut refused := (← active).rejected
  for (d, _) in accepted do
    refused := refused.filter (·.1 != d)
    documents := documents ++ [⟨d, deletedOf d, none⟩]
  for rj in rejected do
    let err : ReplicationError :=
      if rj.code == .conflict then .conflict rj.docId else .ofPeer rj.code "revision rejected"
    documents := documents ++ [⟨rj.docId, deletedOf rj.docId, some err⟩]
    refused := refused.filter (·.1 != rj.docId) ++ [(rj.docId, rj.revId, err)]
  let done := documents.length
  modifyActive fun a =>
    { a with rejected := refused, pushDirty := true,
             push := { a.push with completed := a.push.completed + done } }
  reportProgress
  postDocuments ⟨.push, documents⟩
  pure (.ok ())

/-- Handles one message from the peer. -/
def handle (msg : Message) : EngineM m (Except ReplicationError Unit) := do
  let a ← active
  match msg with
  | .revs revisions sequence =>
    if a.pullEnabled then e.receiveRevs revisions sequence else pure (.error (unexpected msg))
  | .caughtUp sequence =>
    if a.pullEnabled then
      modifyActive fun a => { a with pullCaughtUp := true }
      e.savePullSequence sequence []
    else pure (.error (unexpected msg))
  | .revsAck accepted rejected =>
    if a.inFlight.isSome then e.receiveAck accepted rejected else pure (.error (unexpected msg))
  | .ping => send .pong
  | .pong => pure (.ok ())
  | .error code message => pure (.error (.ofPeer code message))
  | .close code reason => pure (.error (.ofPeer code reason))
  | other => pure (.error (unexpected other))
where
  /-- The error for a message that has no place here. -/
  unexpected (msg : Message) : ReplicationError := .protocol ("unexpected " ++ msg.kind ++ " from peer")

/-- Ends a one-shot session whose work is done: says goodbye, then fails if a rejection still
matches the current revision of its document. -/
def complete : EngineM m (Except ReplicationError Unit) := do
  let _ ← send (.close .normal "replication complete")
  modifySession fun s => { s with pipe := { s.pipe with activeDone := true } }
  for (d, r, err) in (← active).rejected do
    match ← e.store (Host.current? e.config.database d) with
    | .error se => return .error (ReplicationError.ofStore se)
    | .ok (some cur) => if cur.revId == r then return .error err
    | .ok none => pure ()
  pure (.ok ())

/-- The session's main loop: push when there is something to push, report whether it is busy,
end a finished one-shot session, and otherwise handle the next input. -/
def loop : Nat → EngineM m SessionEnd
  | 0 => pure .waiting
  | fuel + 1 => do
    let a ← active
    if a.pushEnabled && a.inFlight.isNone && a.pushDirty then
      if let .error err ← e.pushNextBatch then return .ended (.error err) true
    let settled := settled (← active)
    updateStatus fun s => { s with activity := if settled then .idle else .busy }
    if settled && !a.continuous then return .ended (← e.complete) true
    match ← e.nextInput with
    | .message msg =>
      match ← e.handle msg with
      | .error err => pure (.ended (.error err) true)
      | .ok () => loop fuel
    | .closed => pure (.ended (.error (ReplicationError.ofProtocol .connectionClosed)) true)
    | .changes =>
      match (← active).feed with
      | some c => let _ ← e.store (Host.drain c)
      | none => pure ()
      modifyActive fun a => { a with pushDirty := true }
      loop fuel
    | .nothing => pure .waiting

/-- How many loop turns a session may take before it counts as waiting. -/
def loopFuel : Nat := 100000

/-- Starts a session: dial, handshake, then the loop. -/
def openSession : EngineM m SessionEnd := do
  let cfg := e.config
  match cfg.endpoint with
  | .url u =>
    match connectTcp u.authority with
    | .error io => pure (.ended (.error (ReplicationError.ofIo io)) false)
    | .ok () => pure (.ended (.error (.network "connection closed by peer")) false)
  | .database target =>
    let h ← e.onHost get
    let targetName := (h.databases.getD target default).name
    modify fun r => { r with session := some { passive := { db := target, options := {} } } }
    let authorization := match cfg.authenticator with
      | .basic u p => some (BasicAuth.header u p)
      | _ => none
    let hello : Hello := ⟨protocolVersion, targetName, e.checkpointId, authorization, cfg.headers, false⟩
    if let .error err ← send (.hello hello) then return .ended (.error err) false
    let welcome ← match ← e.nextInput with
      | .message (.welcome _ remote) => pure (Except.ok remote)
      | .message (.error code message) => pure (.error (ReplicationError.ofPeer code message))
      | .message (.close code reason) => pure (.error (ReplicationError.ofPeer code reason))
      | .message other => pure (.error (.protocol ("expected Welcome, got " ++ other.kind)))
      | .closed => pure (.error (ReplicationError.ofProtocol .connectionClosed))
      | _ => pure (.error (.networkUnreachable "timed out waiting for handshake reply"))
    match welcome with
    | .error err => pure (.ended (.error err) false)
    | .ok remote =>
      match ← e.store (Host.checkpoint cfg.database e.checkpointId) with
      | .error se => pure (.ended (.error (ReplicationError.ofStore se)) true)
      | .ok cp =>
        let since := match remote with
          | some r => min r cp.pullSequence
          | none => 0
        let status := (← get).status
        modifyActive fun _ =>
          { continuous := cfg.continuous, pullEnabled := cfg.kind.isPull,
            pull := status.pullProgress, pushEnabled := cfg.kind.isPush,
            push := status.pushProgress }
        updateStatus fun s => { s with activity := .busy, error := none }
        if cfg.kind.isPush && cfg.continuous then
          match ← e.store (Host.subscribe cfg.database) with
          | .ok c => modifyActive fun a => { a with feed := some c }
          | .error _ => pure ()
        if cfg.kind.isPull then
          if let .error err ← send (.subChanges since cfg.continuous cfg.batchSize) then
            return .ended (.error err) true
        e.loop loopFuel

/-- Closes the active side's end of a session that is over and lets the passive side finish. -/
def closeSession : EngineM m Unit := do
  if (← get).session.isSome then
    modifySession fun s => { s with pipe := { s.pipe with activeDone := true, activeGone := true } }
    e.exchange
    let s ← session
    for c in [s.active.feed, s.passive.feed].filterMap id do
      let _ ← e.store (Host.dropReceiver c)
    modify fun r => { r with session := none }

/-- Waits up to the grace period for the acknowledgement of the batch in flight, then says
goodbye: the end of a session that was asked to stop. -/
def shutdownSession : EngineM m Unit := do
  if (← get).session.isNone then return
  let fuel := (← session).pipe.toActive.length + (← session).pipe.toPassive.length + 4
  settle fuel
  let _ ← send (.close .normal "replicator stopped")
  modifySession fun s => { s with pipe := { s.pipe with activeDone := true } }
where
  /-- With at most `fuel` messages left to look at. -/
  settle : Nat → EngineM m Unit
    | 0 => pure ()
    | fuel + 1 => do
      if (← active).inFlight.isNone then return
      match ← e.nextInput with
      | .message (.revsAck accepted rejected) =>
        if let .ok () ← e.receiveAck accepted rejected then settle fuel
      | .message (.revs _ _) | .message (.caughtUp _) | .message .ping | .message .pong => settle fuel
      | _ => pure ()

/-- Ends a run: lets go of the database's registration and reports `stopped` with the outcome. -/
def finishRun (outcome : Option ReplicationError) : EngineM m Unit := do
  if let some token := (← get).token then
    let _ ← e.store (Host.unregister e.config.database token)
  modify fun r => { r with token := none }
  if (← get).running then
    modify fun r => { r with running := false }
    setStatus fun s => { s with activity := .stopped, error := outcome }

/-- Runs sessions until the run is over or a continuous session waits; failed sessions are
retried while the error is retryable and attempts remain. -/
def drive : Nat → EngineM m Unit
  | 0 => pure ()
  | fuel + 1 => do
    let outcome ← match (← get).session with
      | some _ => e.loop loopFuel
      | none => do
        updateStatus fun s => { s with activity := .connecting }
        e.openSession
    match outcome with
    | .waiting => pure ()
    | .ended result connected =>
      e.closeSession
      match result with
      | .ok () => e.finishRun none
      | .error err =>
        if (← get).stopping then e.finishRun none
        else do
          let continuous := e.config.continuous
          let before := (← get).failures
          let failures := (if connected then 0 else before) + 1
          modify fun r => { r with failures }
          let mayRetry := err.isRetryable continuous &&
            (continuous || failures < e.config.retry.maxAttempts.toNat)
          if !mayRetry then e.finishRun (some err)
          else
            updateStatus fun s =>
              { s with activity := if continuous then .offline else s.activity, error := some err }
            drive fuel

/-- How many sessions a run may open: every attempt a one-shot run may make before it gives up,
and as many again as 64 sessions that connect and then fail. -/
def sessionLimit : Nat := 64 + e.config.retry.maxAttempts.toNat

/-- Starts a run, unless one is going on; with `reset` the checkpoint is forgotten first. The
replicator registers with the local database, which refuses when it is closed. -/
def start (reset : Bool) : EngineM m Unit := do
  if (← get).running then return
  modify fun r => { r with stopping := false, failures := 0 }
  let db := e.config.database
  if reset then
    let _ ← e.store (Host.resetCheckpoint db e.checkpointId)
  match ← e.store (Host.register db e.resource) with
  | .error err =>
    setStatus fun _ => { ReplicatorStatus.stopped with error := some (ReplicationError.ofStore err) }
  | .ok token =>
    modify fun r => { r with token := some token, running := true, serverCertificate := none }
    setStatus fun _ => { ReplicatorStatus.stopped with activity := .connecting }
    e.drive e.sessionLimit

/-- Lets a waiting continuous session take in what happened since it last ran. -/
def resume : EngineM m Unit := do
  if (← get).running && !(← get).stopping then e.drive e.sessionLimit

/-- Stops a run: the session finishes the batch in flight, says goodbye, and the replicator
reports `stopped`. -/
def stop : EngineM m Unit := do
  if (← get).running then
    modify fun r => { r with stopping := true }
    e.shutdownSession
    e.closeSession
    e.finishRun none

/-- Reports a stopping run as stopped without waiting for its session. -/
def detach : EngineM m Unit := do
  if (← get).running then
    modify fun r => { r with running := false }
    setStatus fun s => { s with activity := .stopped, error := none }

/-- Fails unless the replicator pushes. -/
def ensurePush : Except ReplicationError Unit :=
  if e.config.kind.isPush then .ok ()
  else .error (.unsupported "pending documents are only tracked for push replication")

/-- The ids of documents with local changes not yet pushed, among those the push filter
admits, sorted. -/
def pendingIds : EngineM m (Except ReplicationError (List String)) := do
  match e.ensurePush with
  | .error err => pure (.error err)
  | .ok () =>
    match ← e.store (Host.unsynced e.config.database e.checkpointId) with
    | .error se => pure (.error (ReplicationError.ofStore se))
    | .ok revs =>
      let ids := (revs.filter (admits e.config.pushFilter)).map (·.docId)
      pure (.ok ((ids.mergeSort fun a b => decide (a ≤ b)).eraseDups))

/-- Whether a document has a local change not yet pushed that the push filter admits. -/
def isPending (id : String) : EngineM m (Except ReplicationError Bool) := do
  match e.ensurePush with
  | .error err => pure (.error err)
  | .ok () =>
    match ← e.store (Host.unsyncedOne e.config.database e.checkpointId id) with
    | .error se => pure (.error (ReplicationError.ofStore se))
    | .ok r => pure (.ok (match r with
      | some r => admits e.config.pushFilter r
      | none => false))

end Engine

end RevSync
