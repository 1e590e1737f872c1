import RevSync.Service.Databases

/-!
# Running scripted resolvers

The effects of scripted resolvers on the local database, the log of their calls, and the
`resolve` step, which settles one conflict with one of them.
-/

namespace RevSync

namespace Service

open World

/-- Runs an effect on database `h`, with the remote revision of the conflict; its outcome. -/
def Effect.perform (e : Effect) (h : Nat) (remote : Revision) : Step Json :=
  match e with
  | .save body => storeResult documentJson
      (onHost (Host.save h (Document.withProperties remote.docId body) .lastWriteWins))
  | .delete => storeResult documentJson (onHost (Host.delete h remote.docId))
  | .purge => storeResult (fun _ => okJson) (onHost (Host.purge h remote.docId))
  | .storeRemote => storeResult documentJson do
      match ← onHost (Host.current? h remote.docId) with
      | some cur => onHost (Host.saveResolved h cur.revId remote .remote)
      | none => throw (.conflict remote.docId)
  | .applyRemote => storeResult applyOutcomeJson (onHost (Host.apply h remote))
  | .close => storeResult (fun _ => okJson) (World.close h)

/-- How a call to a resolver is logged. -/
def callJson (c : Conflict) (effect : Option Json) : Json :=
  Json.object ([("doc_id", .str c.docId), ("local", documentJson c.localDoc),
    ("remote", documentJson c.remote), ("current", Json.ofOption documentJson c.current)] ++
    (effect.map fun e => [("effect", e)]).getD [])

/-- Starts using a resolver; its number. -/
def newResolver (spec : ResolverSpec) : Step Nat := do
  let w ← get
  set { w with resolvers := w.resolvers.push { spec } }
  pure w.resolvers.size

/-- One call of resolver `i` for database `h`: the effect of its step, the log entry, and the
pick. -/
def callResolver (i h : Nat) (remote : Revision) (c : Conflict) : Step Document := do
  let run := (← get).resolvers.getD i default
  let (effect, pick) := run.spec.steps.getD run.calls (none, run.spec.after)
  let outcome ← match effect with
    | some e => some <$> e.perform h remote
    | none => pure none
  modify fun w => { w with resolvers := w.resolvers.modify i fun r =>
    { r with calls := r.calls + 1, log := r.log ++ [callJson c outcome] } }
  pure (pick.choose c)

/-- Takes the log of resolver `i`. -/
def takeLog (i : Nat) : Step (List Json) := do
  let log := ((← get).resolvers.getD i default).log
  modify fun w => { w with resolvers := w.resolvers.modify i fun r => { r with log := [] } }
  pure log

/-- Resolves a conflict with a scripted resolver. -/
def resolveStep (s : Json) : Step Json := do
  let h ← handleAt s "db"
  let remote ← revisionSpec (← reading (field s "remote"))
  let localRev ← match field? s "local" with
    | some v => revisionSpec v
    | none => do
      match ← orUnreadable (onHost (Host.current? h remote.docId)) with
      | some r => pure r
      | none => reading unreadable
  let spec ← reading (readResolver (← reading (field s "resolver")))
  let i ← newResolver spec
  let result ← resolveConflict (fun x => (onHost x).run) h (callResolver i h remote) remote localRev
  let calls ← takeLog i
  let after ← (onHost (Host.current? h remote.docId)).run
  pure (Json.object [
    ("result", match result with
      | .ok d => documentJson d
      | .error e => replicationErrorJson e),
    ("calls", .arr calls),
    ("after", match after with
      | .ok r => Json.ofOption revisionJson r
      | .error e => storeErrorJson e)])

end Service

end RevSync
