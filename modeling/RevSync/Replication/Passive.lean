import RevSync.Replication.Config
import RevSync.Protocol.Message
import RevSync.Protocol.Authorization
import RevSync.Store.Host

/-!
# The passive side

A passive session answers one replicator. It first expects `hello`, checks the protocol version,
the database name and (for password authenticators) the credentials, and welcomes the peer with
the database's UUID and the sequence the peer last recorded here. It then serves requests in
order: a subscription streams the changes after a sequence in batches followed by `caughtUp`,
pushed revisions are applied and acknowledged one by one, checkpoints are recorded, pings are
answered, and `close` ends the session. A continuous subscription also streams every later change
of the database, except the revisions the peer itself pushed.

Each step of a session consumes one input and yields the messages it sends. The session never
fails as a computation: store errors become rejections, error messages or a failed exit.
-/

namespace RevSync

/-- The policy of a passive session. -/
structure PassiveOptions where
  readOnly : Bool := false
  authenticator : Authenticator := .none
  deltaSync : Bool := false
  batchSize : Nat := 100

/-- How a passive session ended. -/
inductive PassiveExit where
  /-- The peer closed the connection. -/
  | completed
  /-- The handshake was refused with this code. -/
  | rejected (code : ErrorCode)
  /-- The session was told to shut down and said goodbye. -/
  | shutDown
  /-- The session failed. -/
  | failed (e : ReplicationError)
  deriving Inhabited

/-- Where a passive session stands. -/
inductive PassivePhase where
  | awaitingHello
  | serving
  | finished (exit : PassiveExit)
  deriving Inhabited

/-- The state of one passive session. -/
structure PassiveSession where
  db : Nat
  options : PassiveOptions
  phase : PassivePhase := .awaitingHello
  /-- The change channel of a continuous subscription. -/
  feed : Option Nat := none
  /-- The highest local sequence sent to the peer. -/
  sentSequence : Nat := 0
  /-- Revisions the peer pushed, not to be sent back. -/
  received : List (String × RevisionId) := []
  /-- Whether the handshake was accepted. -/
  activated : Bool := false

/-- What a step of a passive session sends; `closes` tells that it also ends the connection. -/
structure PassiveOutput where
  messages : List Message := []
  closes : Bool := false

namespace PassiveSession

/-- Runs a store operation, keeping its error. -/
def attempt {α : Type} (x : StoreM α) : StateM Host (Except StoreError α) := x.run

/-- Whether the session has ended. -/
def isFinished (s : PassiveSession) : Bool :=
  match s.phase with
  | .finished _ => true
  | _ => false

/-- Ends the session. -/
def finish (s : PassiveSession) (exit : PassiveExit) : PassiveSession :=
  { s with phase := .finished exit }

/-- The refusal of a handshake, if it must be refused: a code and a reason. -/
def refusal (s : PassiveSession) (dbName : String) (h : Hello) : Option (ErrorCode × String) :=
  if h.protocolVersion != protocolVersion then some (.upgradeRequired, "unsupported protocol version")
  else if h.database != dbName then some (.notFound, "no such database")
  else match s.options.authenticator with
    | .password accepts =>
      let ok := match h.authorization.bind BasicAuth.parse? with
        | some (user, pass) => accepts user pass
        | none => false
      if ok then none else some (.unauthorized, "authentication required")
    | _ => none

/-- Answers the opening message. -/
def greet (s : PassiveSession) (m : Message) : StateM Host (PassiveSession × PassiveOutput) := do
  match m with
  | .hello h =>
    let d := (← get).databases.getD s.db default
    match s.refusal d.name h with
    | some (code, reason) =>
      pure (s.finish (.rejected code), { messages := [.error code reason], closes := true })
    | none =>
      match ← attempt (Host.peerCheckpoint s.db h.checkpointId) with
      | .ok remote =>
        pure ({ s with phase := .serving, activated := true },
          { messages := [.welcome d.state.uuid remote] })
      | .error e =>
        pure (s.finish (.failed (ReplicationError.ofStore e)),
          { messages := [.error .internal e.message], closes := true })
  | other =>
    pure (s.finish (.rejected .protocol),
      { messages := [.error .protocol ("expected Hello, got " ++ other.kind)], closes := true })

/-- Sends the changes after `since` in batches of `batch`, leaving out revisions the peer pushed;
the highest sequence sent, or the store's error with what was sent before it. -/
def sendChanges (s : PassiveSession) (since batch : Nat) :
    StateM Host (PassiveSession × List Message × Except StoreError Nat) := do
  let fuel := ((← get).databases.getD s.db default).state.documents.length + 1
  go fuel s since []
where
  /-- One batch, with at most `fuel` batches left. -/
  go : Nat → PassiveSession → Nat → List Message →
      StateM Host (PassiveSession × List Message × Except StoreError Nat)
    | 0, s, since, sent => pure (s, sent, .ok since)
    | fuel + 1, s, since, sent => do
      match ← attempt (Host.changesSince s.db since batch) with
      | .error e => pure (s, sent, .error e)
      | .ok changes =>
        match changes.getLast? with
        | none => pure (s, sent, .ok since)
        | some last =>
          let since := last.sequence
          let full := changes.length ≥ batch
          let fresh := changes.filter fun r => !s.received.contains (r.docId, r.revId)
          let keep (p : String × RevisionId) : Bool := !changes.any fun r => (r.docId, r.revId) == p
          let s := { s with received := s.received.filter keep }
          let sent := if fresh.isEmpty then sent else sent ++ [.revs fresh since]
          if full then go fuel s since sent else pure (s, sent, .ok since)

/-- Applies pushed revisions and acknowledges them; a read-only session refuses them all. -/
def receive (s : PassiveSession) (revisions : List Revision) :
    StateM Host (PassiveSession × PassiveOutput) := do
  if s.options.readOnly then
    return (s, { messages := [.error .forbidden "database is read-only"] })
  let mut s := s
  let mut accepted : List (String × RevisionId) := []
  let mut rejected : List Rejection := []
  for r in revisions do
    match ← attempt (Host.apply s.db r) with
    | .ok (.inserted _) | .ok (.fastForwarded _) =>
      s := { s with received := s.received ++ [(r.docId, r.revId)] }
      accepted := accepted ++ [(r.docId, r.revId)]
    | .ok .alreadyKnown => accepted := accepted ++ [(r.docId, r.revId)]
    | .ok (.conflict _) => rejected := rejected ++ [⟨r.docId, r.revId, .conflict⟩]
    | .error _ => rejected := rejected ++ [⟨r.docId, r.revId, .internal⟩]
  pure (s, { messages := [.revsAck accepted rejected] })

/-- The largest batch the session sends for a subscription asking for `asked`. -/
def batchFor (s : PassiveSession) (asked : Nat) : Nat := min (max asked 1) (max s.options.batchSize 1)

/-- Serves one request of an accepted peer. -/
def serve (s : PassiveSession) (m : Message) : StateM Host (PassiveSession × PassiveOutput) := do
  match m with
  | .subChanges since continuous asked =>
    let s ← if continuous then do
        match ← attempt (Host.subscribe s.db) with
        | .ok c => pure { s with feed := some c }
        | .error _ => pure s
      else pure s
    let (s, sent, result) ← s.sendChanges since (s.batchFor asked)
    match result with
    | .ok last => pure ({ s with sentSequence := last }, { messages := sent ++ [.caughtUp last] })
    | .error e =>
      pure (s.finish (.failed (ReplicationError.ofStore e)), { messages := sent, closes := true })
  | .revs revisions _ => s.receive revisions
  | .setCheckpoint cp sequence =>
    match ← attempt (Host.setPeerCheckpoint s.db cp sequence) with
    | .ok () => pure (s, {})
    | .error e => pure (s.finish (.failed (ReplicationError.ofStore e)), { closes := true })
  | .ping => pure (s, { messages := [.pong] })
  | .pong => pure (s, {})
  | .close _ _ => pure (s.finish .completed, { closes := true })
  | other =>
    let reason := "unexpected " ++ other.kind
    pure (s.finish (.failed (.protocol reason)),
      { messages := [.error .protocol reason], closes := true })

/-- Handles one message from the peer. -/
def handle (s : PassiveSession) (m : Message) : StateM Host (PassiveSession × PassiveOutput) :=
  match s.phase with
  | .awaitingHello => s.greet m
  | .serving => s.serve m
  | .finished _ => pure (s, {})

/-- Streams the changes a continuous subscription has not sent yet. -/
def catchUp (s : PassiveSession) : StateM Host (PassiveSession × PassiveOutput) := do
  match s.phase, s.feed with
  | .serving, some c =>
    let _ ← attempt (Host.drain c)
    let (s, sent, result) ← s.sendChanges s.sentSequence s.options.batchSize
    match result with
    | .ok last => pure ({ s with sentSequence := last }, { messages := sent })
    | .error e =>
      pure (s.finish (.failed (ReplicationError.ofStore e)), { messages := sent, closes := true })
  | _, _ => pure (s, {})

/-- Whether a continuous subscription has changes waiting. -/
def hasChanges (s : PassiveSession) (h : Host) : Bool :=
  match s.phase, s.feed with
  | .serving, some c => !(h.channels.getD c default).queue.isEmpty
  | _, _ => false

/-- The peer closed the connection. -/
def peerClosed (s : PassiveSession) : PassiveSession :=
  if s.isFinished then s else s.finish .completed

/-- Told to shut down: says goodbye. -/
def shutdown (s : PassiveSession) : PassiveSession × PassiveOutput :=
  if s.isFinished then (s, {})
  else (s.finish .shutDown,
    { messages := [.close .goingAway "listener stopping"], closes := true })

end PassiveSession

end RevSync
