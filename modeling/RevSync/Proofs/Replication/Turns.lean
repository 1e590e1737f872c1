import RevSync.Replication.Session

/-! # The parts of a run

`Engine.start`, `Engine.drive` and `Engine.openSession` each do several things one after the
other; the run's course is told by where one ends and the next begins. This module names the
parts and shows that the computations are made of them:

* `Engine.openSession_eq`: a session's handshake (`Engine.handshake`), which ends the session or
  gives the peer's welcome, and what follows the welcome (`Engine.afterWelcome`);
* `Engine.drive_succ`: a turn of a session, resumed or dialed (`Engine.turn`), and what the run
  does once the turn is over (`Engine.conclude`), which tells whether to dial again;
* `Engine.start_eq`: the registration that begins a run (`Engine.begin`), and the sessions. -/

namespace RevSync

namespace Engine

variable {m : Type → Type} [Monad m] {ρ : Type} (e : Engine m ρ)

/-- A session's dial and handshake: the session's end when they fail, or the sequence the peer
recorded for the checkpoint, given with its welcome. -/
def handshake : EngineM m (Except SessionEnd (Option Nat)) := do
  let cfg := e.config
  match cfg.endpoint with
  | .url u =>
    match connectTcp u.authority with
    | .error io => pure (.error (.ended (.error (ReplicationError.ofIo io)) false))
    | .ok () => pure (.error (.ended (.error (.network "connection closed by peer")) false))
  | .database target =>
    let h ← e.onHost get
    let targetName := (h.databases.getD target default).name
    modify fun r => { r with session := some { passive := { db := target, options := {} } } }
    let authorization := match cfg.authenticator with
      | .basic u p => some (BasicAuth.header u p)
      | _ => none
    let hello : Hello := ⟨protocolVersion, targetName, e.checkpointId, authorization, cfg.headers, false⟩
    if let .error err ← send (.hello hello) then return .error (.ended (.error err) false)
    let welcome ← match ← e.nextInput with
      | .message (.welcome _ remote) => pure (Except.ok remote)
      | .message (.error code message) => pure (.error (ReplicationError.ofPeer code message))
      | .message (.close code reason) => pure (.error (ReplicationError.ofPeer code reason))
      | .message other => pure (.error (.protocol ("expected Welcome, got " ++ other.kind)))
      | .closed => pure (.error (ReplicationError.ofProtocol .connectionClosed))
      | _ => pure (.error (.networkUnreachable "timed out waiting for handshake reply"))
    match welcome with
    | .error err => pure (.error (.ended (.error err) false))
    | .ok remote => pure (.ok remote)

/-- A session from the peer's welcome on: the checkpoint is read, the session set up and
reported busy, the peer's changes asked for, and the loop run. -/
def afterWelcome (remote : Option Nat) : EngineM m SessionEnd := do
  let cfg := e.config
  match ← e.store (Host.checkpoint cfg.database e.checkpointId) with
  | .error se => pure (.ended (.error (ReplicationError.ofStore se)) true)
  | .ok cp =>
    let since := match remote with
      | some r => min r cp.pullSequence
      | none => 0
    let status := (← get).status
    modifyActive fun _ =>
      { continuous := cfg.continuous, pullEnabled := cfg.kind.isPull,
        pull := status.pullProgress, pushEnabled := cfg.kind.isPush,
        push := status.pushProgress }
    updateStatus fun s => { s with activity := .busy, error := none }
    if cfg.kind.isPush && cfg.continuous then
      match ← e.store (Host.subscribe cfg.database) with
      | .ok c => modifyActive fun a => { a with feed := some c }
      | .error _ => pure ()
    if cfg.kind.isPull then
      if let .error err ← send (.subChanges since cfg.continuous cfg.batchSize) then
        return .ended (.error err) true
    e.loop loopFuel

/-- One turn of a session: the live one resumes its loop, or a new one is dialed after the
status says `connecting`. -/
def turn : EngineM m SessionEnd := do
  match (← get).session with
  | some _ => e.loop loopFuel
  | none => do
    updateStatus fun s => { s with activity := .connecting }
    e.openSession

/-- Whether a run retries after a session failed with `err`, the `failures`-th failed session in
a row: the error may be retried, and a one-shot run has attempts left. -/
def retries (err : ReplicationError) (failures : Nat) : Bool :=
  err.isRetryable e.config.continuous &&
    (e.config.continuous || failures < e.config.retry.maxAttempts.toNat)

/-- What a run does once a session's turn is over, and whether it dials again: a waiting session
leaves the run as it is; an ended one is closed, and the run either ends, with the session's error
when that error may not be retried or the attempts are used up, or reports the error and retries. -/
def conclude (outcome : SessionEnd) : EngineM m Bool := do
  match outcome with
  | .waiting => pure false
  | .ended result connected =>
    e.closeSession
    match result with
    | .ok () =>
      e.finishRun none
      pure false
    | .error err =>
      if (← get).stopping then
        e.finishRun none
        pure false
      else do
        let before := (← get).failures
        let failures := (if connected then 0 else before) + 1
        modify fun r => { r with failures }
        if !e.retries err failures then
          e.finishRun (some err)
          pure false
        else
          updateStatus fun s =>
            { s with activity := if e.config.continuous then .offline else s.activity,
                     error := some err }
          pure true

/-- The beginning of `start`: unless a run is going on, the run's flags are reset, the checkpoint
forgotten if asked for, and the replicator registered with the local database; whether a run
began. A refused registration is reported as `stopped` with the store's error. -/
def begin (reset : Bool) : EngineM m Bool := do
  if (← get).running then return false
  modify fun r => { r with stopping := false, failures := 0 }
  let db := e.config.database
  if reset then
    let _ ← e.store (Host.resetCheckpoint db e.checkpointId)
  match ← e.store (Host.register db e.resource) with
  | .error err =>
    setStatus fun _ => { ReplicatorStatus.stopped with error := some (ReplicationError.ofStore err) }
    pure false
  | .ok token =>
    modify fun r => { r with token := some token, running := true, serverCertificate := none }
    setStatus fun _ => { ReplicatorStatus.stopped with activity := .connecting }
    pure true

variable [LawfulMonad m]

/-- A session is its handshake and, once the peer welcomed it, the rest. -/
theorem openSession_eq :
    e.openSession = (do
      match ← e.handshake with
      | .error o => pure o
      | .ok remote => e.afterWelcome remote) := by
  unfold openSession handshake
  rcases hep : e.config.endpoint with u | target
  case url =>
    simp only [hep]
    cases connectTcp u.authority <;> simp
  case database =>
    simp only [hep, bind_assoc]
    -- the two sides agree up to the hello's fate and the peer's reply
    refine bind_congr fun h => ?_
    refine bind_congr fun _ => ?_
    refine bind_congr fun r => ?_
    cases r with
    | error err => simp
    | ok u =>
      simp only [bind_assoc]
      refine bind_congr fun i => ?_
      rcases i with msg | _ | _ | _
      · cases msg
        case welcome => simp only [pure_bind]; rfl
        all_goals simp
      all_goals simp

/-- A run with sessions left takes a turn, then goes on as the turn's end says. -/
theorem drive_succ (n : Nat) :
    e.drive (n + 1) = (do
      if ← e.conclude (← e.turn) then e.drive n else pure ()) := by
  simp only [drive, turn, conclude, bind_assoc]
  refine bind_congr fun rs => ?_
  -- a resumed session and a dialed one end their turn the same way
  cases rs.session <;> simp -failIfUnchanged only [bind_assoc]
  -- a dialed session first reports `connecting`
  refine bind_congr fun _ => ?_
  all_goals
    refine bind_congr fun outcome => ?_
    cases outcome with
    | waiting => simp
    | ended result connected =>
      cases result with
      | ok => simp
      | error err =>
        simp only [bind_assoc]
        refine bind_congr fun _ => ?_
        refine bind_congr fun rs => ?_
        split
        · simp
        · simp only [bind_assoc]
          refine bind_congr fun r => ?_
          refine bind_congr fun _ => ?_
          -- on whether the run retries; `retries` is the condition `drive` spells out
          cases hr : e.retries err ((if connected then 0 else r.failures) + 1) <;>
          · have hr' : (err.isRetryable e.config.continuous && (e.config.continuous ||
                (if connected then 0 else r.failures) + 1 < e.config.retry.maxAttempts.toNat)) =
                _ := hr
            simp [hr']

/-- A start is its beginning and, when a run began, the run's sessions. -/
theorem start_eq (reset : Bool) :
    e.start reset = (do if ← e.begin reset then e.drive e.sessionLimit else pure ()) := by
  simp only [start, begin, bind_assoc]
  refine bind_congr fun rs => ?_
  split
  · simp
  · simp only [bind_assoc]
    refine bind_congr fun _ => ?_
    -- with the checkpoint reset or not, the registration decides
    split
    · simp only [bind_assoc]
      refine bind_congr fun _ => ?_
      refine bind_congr fun r => ?_
      cases r <;> simp
    · simp only [bind_assoc]
      refine bind_congr fun r => ?_
      cases r <;> simp

end Engine

end RevSync
