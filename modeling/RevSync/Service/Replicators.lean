import RevSync.Service.Resolvers
import RevSync.Store.Checkpoint

/-!
# Replicator steps

Scripts build replicators between their databases, run them once, ask which documents are
waiting to be pushed, and look at their status and configuration. A run reports every status the
replicator went through, every batch it transferred and every call of its resolver.

Filters and resolvers are given as data: a filter spec names a predicate on the document and
its deletion flag, a resolver spec the scripted resolver of `Service.Picks`.
-/

namespace RevSync

namespace Service

open World

/-- Reads a filter spec. -/
def readFilter : Json → Read DocumentFilter
  | .bool b => pure fun _ _ => b
  | .str "not_deleted" => pure fun _ deleted => !deleted
  | .str "deleted_only" => pure fun _ deleted => deleted
  | .obj [("id_prefix", p)] => do
    let p ← asText p
    pure fun d _ => d.id.startsWith p
  | .obj [("ids", ids)] => do
    let ids ← texts ids
    pure fun d _ => ids.contains d.id
  | .obj [("has_key", k)] => do
    let k ← asText k
    pure fun d _ => d.properties.contains k
  | .obj [("field_eq", .arr [k, v])] => do
    let k ← asText k
    pure fun d _ => match d.properties.get? k with
      | some x => Json.sameValue x v
      | none => false
  | .obj [("int_mod", .arr [k, m, r])] => do
    let k ← asText k
    let m ← asNat m
    let r ← asNat r
    if m = 0 then unreadable
    pure fun d _ => match d.properties.get? k with
      | some (.num (.nat x)) => x % m == r
      | _ => false
  | .obj [("not", f)] => do
    let f ← readFilter f
    pure fun d deleted => !f d deleted
  | .obj [("all", .arr fs)] => do
    let fs ← fs.attach.mapM fun ⟨f, _⟩ => readFilter f
    pure fun d deleted => fs.all fun f => f d deleted
  | .obj [("any", .arr fs)] => do
    let fs ← fs.attach.mapM fun ⟨f, _⟩ => readFilter f
    pure fun d deleted => fs.any fun f => f d deleted
  | _ => unreadable

/-- A progress as `[completed, total]`. -/
def progressJson (p : Progress) : Json := .arr [Json.ofNat p.completed, Json.ofNat p.total]

/-- A status. -/
def statusJson (s : ReplicatorStatus) : Json :=
  Json.object [("activity", .str s.activity.name), ("progress", progressJson s.progress),
    ("push", progressJson s.pushProgress), ("pull", progressJson s.pullProgress),
    ("error", Json.ofOption replicationErrorJson s.error)]

/-- A transferred batch. -/
def batchJson (b : DocumentBatch) : Json :=
  Json.object [("direction", .str (match b.direction with
      | .push => "Push"
      | .pull => "Pull")),
    ("documents", .arr (b.documents.map fun d => Json.object [("id", .str d.id),
      ("deleted", .bool d.deleted), ("error", Json.ofOption replicationErrorJson d.error)]))]

/-- Reads the kind of a replicator. -/
def readKind (s : Json) : Read ReplicatorKind := do
  match ← text? s "type" with
  | none | some "push_and_pull" => pure .pushAndPull
  | some "push" => pure .push
  | some "pull" => pure .pull
  | some _ => unreadable

/-- Reads the credentials of a replicator; a bad client certificate is the TLS error. -/
def readAuthenticator (s : Json) : Read (Except TlsError Authenticator) := do
  match field? s "auth" with
  | none | some (.str "none") => pure (.ok .none)
  | some (.str "password") => pure (.ok (.password fun _ _ => false))
  | some (.str "certificate") => pure (.ok (.certificate (.predicate fun _ => true)))
  | some (.obj [("basic", .arr [u, p])]) => pure (.ok (.basic (← asText u) (← asText p)))
  | some (.obj [("client_pem", pem)]) => pure ((TlsIdentity.ofPem (← asText pem)).map .clientCertificate)
  | some _ => unreadable

/-- Reads network timeouts. -/
def readTimeouts (s : Json) : Read NetworkTimeouts := do
  match field? s "timeouts" with
  | none => pure {}
  | some t =>
    let base : NetworkTimeouts := {}
    let connect ← (·.map Duration.ofMillis) <$> nat? t "connect_ms"
    let heartbeat ← (·.map Duration.ofMillis) <$> nat? t "heartbeat_ms"
    pure { connect := connect.getD base.connect, heartbeat := heartbeat.getD base.heartbeat }

/-- The retries of a script's replicator: `maxAttempts` tries with no delay. -/
def retryOf (maxAttempts : Nat) : RetryPolicy :=
  { RetryPolicy.once with maxAttempts := maxAttempts.toUInt32 }

/-- Checks a configuration as building a replicator does. -/
def checkConfig (cfg : ReplicatorConfig Nat) (uuidOf : Nat → Uuid) : Except ReplicationError Unit :=
  if cfg.authenticator.isListenerSide then
    .error (.invalidConfiguration "listener authenticators cannot be used by a replicator")
  else if cfg.batchSize = 0 then .error (.invalidConfiguration "batch size must be positive")
  else match cfg.endpoint with
    | .database t =>
      if uuidOf t == uuidOf cfg.database then
        .error (.invalidConfiguration "a database cannot replicate with itself")
      else .ok ()
    | .url _ => .ok ()

/-- The UUID of a handle's database. -/
def uuidIn (w : World) (h : Nat) : Uuid := (w.host.databases.getD h default).state.uuid

/-- The name of a handle's database. -/
def nameIn (w : World) (h : Nat) : String := (w.host.databases.getD h default).name

/-- The running listener under a name. -/
def runningListener (name : String) : Step (ListenerSlot × Binding) := do
  let w ← get
  let some i := w.listenerNames.get? name | reading unreadable
  let slot := w.listeners.getD i default
  let some b := slot.running | reading unreadable
  pure (slot, b)

/-- The URL of a listener on the loopback address; the scheme follows whether it presents an
identity unless `scheme` says otherwise, and `database` may name another database. -/
def listenerUrl (s : Json) (name : String) : Step EndpointUrl := do
  let (slot, b) ← runningListener name
  let tls ← match ← reading (text? s "scheme") with
    | none => pure b.identity.isSome
    | some "ws" => pure false
    | some "wss" => pure true
    | some _ => reading unreadable
  let database := (← reading (text? s "database")).getD slot.config.databaseName
  pure { tls, host := "127.0.0.1", port := b.port.toUInt16, database }

/-- Reads the pinned certificate: hex DER, or `listener` for the leaf the listener presents. -/
def readPin (s : Json) : Step (Option ByteArray) := do
  match ← reading (text? s "pin") with
  | none => pure none
  | some "listener" =>
    let (_, b) ← runningListener (← reading (text s "listener"))
    match b.identity with
    | some ident => pure (some ident.leaf)
    | none => reading unreadable
  | some hex => some <$> reading (need (Hex.decode hex))

/-- Builds a replicator under a name. -/
def replicatorStep (s : Json) : Step Json := do
  let name ← reading (text s "name")
  let constructor ← reading (text? s "constructor")
  match constructor with
  | none | some "with_handle" | some "new" | some "new_no_runtime" => pure ()
  | some _ => reading unreadable
  let localDb ← handleAt s "local"
  let endpoint ← match ← reading (text? s "remote"), ← reading (text? s "url"),
      ← reading (text? s "listener") with
    | some key, _, _ => Endpoint.database <$> handle key
    | none, some u, _ =>
      match EndpointUrl.parse u with
      | .ok u => pure (Endpoint.url u)
      | .error err => return replicationErrorJson err
    | none, none, some l => Endpoint.url <$> listenerUrl s l
    | none, none, none => reading unreadable
  let kind ← reading (readKind s)
  let continuous ← reading (flag s "continuous" false)
  let batch ← reading (nat? s "batch_size")
  let viaBuilder ← reading (flag s "batch_size_builder" false)
  let maxAttempts ← reading ((·.getD 1) <$> nat? s "max_attempts")
  let pushFilter ← reading (optional s "push_filter" readFilter)
  let pullFilter ← reading (optional s "pull_filter" readFilter)
  let resolverSpec ← reading (optional s "resolver" readResolver)
  let timeouts ← reading (readTimeouts s)
  let headers ← reading ((·.getD []) <$> optional s "headers" fun h => do
    (← asFields h).mapM fun (k, v) => do pure (k, ← asText v))
  let pin ← readPin s
  let selfSignedOnly ← reading (flag s "self_signed_only" false)
  let roots ← reading ((·.getD []) <$> optional s "roots" fun r => do
    (← texts r).mapM fun t => need (Hex.decode t))
  let auth ← reading (readAuthenticator s)
  let authenticator ← match auth with
    | .ok a => pure a
    | .error err => return tlsErrorJson err
  if constructor == some "new_no_runtime" then
    return replicationErrorJson (.invalidConfiguration "replicators need a tokio runtime")
  let resolver ← match resolverSpec with
    | some spec => some <$> newResolver spec
    | none => pure none
  let base : ReplicatorConfig Nat :=
    { database := localDb, endpoint, kind, continuous, authenticator, pushFilter, pullFilter,
      resolver, headers, timeouts, retry := retryOf maxAttempts, pinnedCertificate := pin,
      selfSignedOnly, trustedRoots := roots }
  let cfg := match batch with
    | some n => if viaBuilder then base.withBatchSize n else { base with batchSize := n }
    | none => base
  let w ← get
  match checkConfig cfg (uuidIn w) with
  | .error err => pure (replicationErrorJson err)
  | .ok () =>
    let cp := checkpointId (uuidIn w localDb) (cfg.endpoint.checkpointKey (uuidIn w))
    let i := w.replicators.size
    let actor ← addActor (.replicator i)
    let old := (← get).replicatorNames.get? name
    modify fun w => { w with
      replicators := w.replicators.push { config := cfg, checkpointId := cp, actor },
      replicatorNames := w.replicatorNames.insert name i }
    if let some o := old then dropReplicator o
    pure okJson
where
  /-- Lets go of a replicator that a new one replaced. -/
  dropReplicator (i : Nat) : Step Unit := do
    let slot := (← get).replicators.getD i default
    modify fun w => { w with replicators := w.replicators.modify i fun r => { r with alive := false } }
    collect slot.config.database
    match slot.config.endpoint with
    | .database t => collect t
    | .url _ => pure ()

/-- The replicator named by a step. -/
def replicatorAt (s : Json) : Step Nat := do
  let name ← reading (text s "replicator")
  match (← get).replicatorNames.get? name with
  | some i => pure i
  | none => reading unreadable

/-- The runtime of a script's replicators: resolver calls run the scripted resolvers against the
local database. -/
def scriptRuntime (localDb : Nat) : Runtime Step Nat :=
  runtime fun i c =>
    let remote : Revision :=
      { docId := c.remote.id, revId := c.remote.revision.getD default, history := [],
        deleted := c.remote.deleted, body := c.remote.properties, sequence := c.remote.sequence }
    callResolver i localDb remote c

/-- Runs a computation of a replicator with the script's runtime. -/
def onReplicator {α : Type} (i : Nat) (f : Engine Step Nat → EngineM Step α) : Step α := do
  let slot := (← get).replicators.getD i default
  withReplicator (scriptRuntime slot.config.database) i f

/-- Takes the events of a replicator: its statuses and its batches. -/
def takeEvents (i : Nat) : Step (List ReplicatorStatus × List DocumentBatch) := do
  let events := ((← get).replicators.getD i default).state.events
  modify fun w => { w with replicators := w.replicators.modify i fun r =>
    { r with state := { r.state with events := [] } } }
  pure (events.filterMap fun
      | .status s => some s
      | _ => none,
    events.filterMap fun
      | .documents b => some b
      | _ => none)

/-- What the certificate a replicator saw was. -/
def serverCertificateJson (_slot : ReplicatorSlot) : Json := .null

/-- Runs a replicator once and reports what happened. -/
def runOnceStep (s : Json) : Step Json := do
  let i ← replicatorAt s
  let reset ← reading (flag s "reset" false)
  if ((← get).replicators.getD i default).config.continuous then reading unreadable
  onReplicator i fun e => e.start reset
  let slot := (← get).replicators.getD i default
  let (statuses, batches) ← takeEvents i
  let calls ← match slot.config.resolver with
    | some r => takeLog r
    | none => pure []
  pure (Json.object [("finished", .bool !slot.state.running),
    ("statuses", .arr (statuses.map statusJson)), ("documents", .arr (batches.map batchJson)),
    ("final", statusJson slot.state.status), ("resolver_calls", .arr calls),
    ("server_certificate", serverCertificateJson slot)])

/-- The replicator steps. -/
def replicatorStepFor (op : String) (s : Json) : Option (Step Json) :=
  match op with
  | "replicator" => some (replicatorStep s)
  | "run" => some (runOnceStep s)
  | "pending" => some do
    let i ← replicatorAt s
    let r ← onReplicator i fun e => e.pendingIds
    pure (match r with
      | .ok ids => .arr (ids.map .str)
      | .error err => replicationErrorJson err)
  | "is_pending" => some do
    let i ← replicatorAt s
    let id ← reading (text s "id")
    let r ← onReplicator i fun e => e.isPending id
    pure (match r with
      | .ok b => .bool b
      | .error err => replicationErrorJson err)
  | "status" => some do
    let i ← replicatorAt s
    let slot := (← get).replicators.getD i default
    pure (Json.object [("status", statusJson slot.state.status),
      ("server_certificate", serverCertificateJson slot)])
  | "replicator_info" => some do
    let i ← replicatorAt s
    let slot := (← get).replicators.getD i default
    let w ← get
    let cfg := slot.config
    let expected := checkpointId (uuidIn w cfg.database) (cfg.endpoint.checkpointKey (uuidIn w))
    pure (Json.object [
      ("debug", .str ("Replicator \x7b endpoint: " ++ cfg.endpoint.describe (nameIn w) ++
        ", activity: " ++ slot.state.status.activity.name ++ " \x7d")),
      ("config", .str (cfg.describe (nameIn w))),
      ("checkpoint_matches", .bool (slot.checkpointId == expected)),
      ("endpoint_remote", .bool cfg.endpoint.isRemote),
      ("batch_size", Json.ofNat cfg.batchSize),
      ("is_running", .bool slot.state.status.activity.isRunning),
      ("complete", .bool slot.state.status.progress.isComplete),
      ("default_status", statusJson ReplicatorStatus.stopped)])
  | "replicator_stop" => some do
    let i ← replicatorAt s
    onReplicator i fun e => e.stop
    let slot := (← get).replicators.getD i default
    pure (Json.object [("stopped", .bool !slot.state.running),
      ("status", statusJson slot.state.status)])
  | _ => none

end Service

end RevSync
