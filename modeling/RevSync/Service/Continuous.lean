import RevSync.Service.Replicators

/-!
# Continuous runs

A continuous replicator between two databases of a script is started, left to converge, and
then watched phase by phase: the steps of a phase change the databases, and the replicator takes
each change in as it happens. After each phase the run checks that the two sides converged. At
the end the replicator is stopped, or one of the databases is closed under it, or it is left
running.

Converged means the replicator is idle, has nothing left to push, and the current revisions of
the two databases agree as far as its direction carries them.
-/

namespace RevSync

namespace Service

open World

/-- The current revisions of a database as `(id, revision)` pairs, or its error. -/
def currentRevisions (h : Nat) : Step (Except StoreError (List Revision)) := do
  let limit := (← database h).state.lastSequence + 1
  onHostState (Host.changesSince h 0 limit).run

/-- Whether the replicator's two databases agree and it has nothing left to do. -/
def converged (i : Nat) : Step Bool := do
  let slot := (← get).replicators.getD i default
  let cfg := slot.config
  if slot.state.status.activity != .idle then return false
  if cfg.kind.isPush then
    match ← onReplicator i fun e => e.pendingIds with
    | .ok [] => pure ()
    | _ => return false
  let remote := match cfg.endpoint with
    | .database t => t
    | .url _ => cfg.database
  match ← currentRevisions cfg.database, ← currentRevisions remote with
  | .ok l, .ok r =>
    let pairs (rs : List Revision) := rs.map fun x => (x.docId, x.revId)
    let within (a b : List (String × RevisionId)) := a.all b.contains
    let (l, r) := (pairs l, pairs r)
    pure (match cfg.kind with
      | .push => within l r
      | .pull => within r l
      | .pushAndPull => within l r && within r l)
  | _, _ => pure false

/-- Lets the replicator take in what happened, then checks convergence. -/
def settle (i : Nat) : Step Bool := do
  onReplicator i fun e => e.resume
  converged i

/-- Runs one step of a phase; a pause answers `slept`. -/
def phaseStep (runLocal : Json → Step Json) (i : Nat) (s : Json) : Step Json := do
  let r ← match field? s "sleep_ms" with
    | some n => do
      let n ← reading (asNat n)
      if n > 2000 then reading unreadable
      pure (.str "slept")
    | none => runLocal s
  onReplicator i fun e => e.resume
  pure r

/-- The revisions of a database as `[id, revision, deleted, body]` sorted by id, or its error. -/
def revisionsJson (h : Nat) : Step Json := do
  match ← currentRevisions h with
  | .error err => pure (storeErrorJson err)
  | .ok rs =>
    let sorted := rs.mergeSort fun a b => decide (a.docId ≤ b.docId)
    pure (.arr (sorted.map fun r =>
      .arr [.str r.docId, revIdJson r.revId, .bool r.deleted, .obj r.body]))

/-- How a continuous run ends. -/
inductive ContinuousStop where
  | stop
  | closeLocal
  | closeRemote
  | keepRunning

/-- Reads how a continuous run ends. -/
def readContinuousStop (s : Json) : Read ContinuousStop := do
  match ← text? s "stop" with
  | none | some "stop" => pure .stop
  | some "close_local" => pure .closeLocal
  | some "close_remote" => pure .closeRemote
  | some "none" => pure .keepRunning
  | some _ => unreadable

/-- The final status, briefly. -/
def finalJson (s : ReplicatorState) : Json :=
  Json.object [("activity", .str s.status.activity.name),
    ("error", Json.ofOption replicationErrorJson s.status.error),
    ("is_running", .bool s.status.activity.isRunning)]

/-- Runs a continuous replicator through phases of script steps. -/
def runContinuousStep (runLocal : Json → Step Json) (s : Json) : Step Json := do
  let i ← replicatorAt s
  let slot := (← get).replicators.getD i default
  let remote ← match slot.config.endpoint with
    | .database t => pure t
    | .url _ => reading unreadable
  if !slot.config.continuous then reading unreadable
  let reset ← reading (flag s "reset" false)
  let twice ← reading (flag s "start_twice" false)
  let phases ← reading (list s "phases" >>= fun ps => ps.mapM asList)
  let stopMode ← reading (readContinuousStop s)
  let callsBefore ← resolverCalls slot
  onReplicator i fun e => e.start reset
  if twice then onReplicator i fun e => e.start false
  let first ← settle i
  let mut results := [Json.object [("steps", .arr []), ("converged", .bool first)]]
  for phase in phases do
    let mut steps := []
    for step in phase do
      steps := steps ++ [← phaseStep runLocal i step]
    let ok ← settle i
    results := results ++ [Json.object [("steps", .arr steps), ("converged", .bool ok)]]
  let here := slot.config.database
  let stopped ← match stopMode with
    | .stop => do
      onReplicator i fun e => e.stop
      pure (some (Json.str "ok"))
    | .closeLocal => some <$> closeResult here
    | .closeRemote => some <$> closeResult remote
    | .keepRunning => pure none
  let after := (← get).replicators.getD i default
  match stopped with
  | none =>
    pure (Json.object [("phases", .arr results), ("final", finalJson after.state)])
  | some stopJson =>
    let callsAfter ← resolverCalls after
    pure (Json.object [("phases", .arr results), ("stop", stopJson),
      ("stopped", .bool !after.state.running), ("final", finalJson after.state),
      ("resolver_called", .bool (callsAfter != callsBefore)),
      ("local", ← revisionsJson here), ("remote", ← revisionsJson remote)])
where
  /-- How often the replicator's resolver was called so far. -/
  resolverCalls (slot : ReplicatorSlot) : Step Nat := do
    match slot.config.resolver with
    | some r => pure ((← get).resolvers.getD r default).calls
    | none => pure 0
  /-- Closes a database: `ok` or its error. -/
  closeResult (h : Nat) : Step Json := do
    match ← (close h).run with
    | .ok () => pure (.str "ok")
    | .error err => pure (storeErrorJson err)

end Service

end RevSync
