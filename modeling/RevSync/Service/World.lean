import RevSync.Replication.Session
import RevSync.Service.Picks
import RevSync.Listener.Bind
import RevSync.Host.Ports
import RevSync.Tls.Store

/-!
# The world of a script

A script works on a world of named objects: databases under free keys, subscriptions, test
resources that count how often they are stopped, and replicators. Every database handle stays in
the host once opened; a key names the handle it was last bound to. A handle is released (closed,
its channels shut and its directory lock let go) once nothing names it any more: no key, and no
replicator that uses it.

Identity stores and listeners have names of their own. A listener holds its database like a
replicator does, and keeps an identity store: a named one, or one of its own in memory.

Test resources, replicators and started listeners are the active resources a database stops
before it closes; they are numbered together as actors.
-/

namespace RevSync

namespace Service

/-- A resource registered by a script: it counts its stops and may unregister itself while
being stopped. -/
structure Probe where
  selfUnregister : Bool
  /-- Its number as an active resource. -/
  actor : Nat := 0
  stops : Nat := 0
  /-- Whether the script still holds the resource. -/
  held : Bool := true
  /-- Its registrations, newest first, as database handle and token. -/
  registrations : List (Nat × Nat) := []
  deriving Inhabited

/-- A replicator of the script; its resolver is the number of a scripted resolver. -/
structure ReplicatorSlot where
  config : ReplicatorConfig Nat
  checkpointId : String
  /-- Its number as an active resource. -/
  actor : Nat
  state : ReplicatorState := {}
  /-- Whether the script still holds it. -/
  alive : Bool := true

instance : Inhabited ReplicatorSlot :=
  ⟨{ config := { database := 0, endpoint := .database 0 }, checkpointId := "", actor := 0 }⟩

/-- Whether a replicator uses a handle. -/
def ReplicatorSlot.uses (r : ReplicatorSlot) (h : Nat) : Bool :=
  r.alive && (r.config.database == h || match r.config.endpoint with
    | .database t => t == h
    | .url _ => false)

/-- A started listener: where it listens, what it advertises, the identity it presents and its
registration with the database. -/
structure Binding where
  address : IpAddr
  port : Nat
  urls : List EndpointUrl
  identity : Option TlsIdentity
  /-- Whether the identity is the database's anonymous one. -/
  anonymous : Bool
  token : Nat
  deriving Inhabited

/-- A listener of the script, with the number of its identity store. -/
structure ListenerSlot where
  config : ListenerConfig
  keyring : Nat
  /-- Its number as an active resource. -/
  actor : Nat
  running : Option Binding := none
  status : ListenerStatus := {}
  /-- Whether the script still holds it. -/
  held : Bool := true
  deriving Inhabited

/-- What an active resource is. -/
inductive Actor where
  | probe (i : Nat)
  | replicator (i : Nat)
  | listener (i : Nat)
  deriving Inhabited

/-- How a closing database waits for its replicators. -/
inductive StopMode where
  /-- Each replicator is stopped and waited for. -/
  | wait
  /-- A replicator whose session cannot be waited for is reported stopped at once. -/
  | detach
  deriving DecidableEq, Inhabited

/-- Everything a script has made so far. -/
structure World where
  host : Host := {}
  databases : TextMap Nat := []
  subscriptions : TextMap Nat := []
  actors : Array Actor := #[]
  probes : Array Probe := #[]
  probeNames : TextMap Nat := []
  resolvers : Array ResolverRun := #[]
  replicators : Array ReplicatorSlot := #[]
  replicatorNames : TextMap Nat := []
  keyrings : Array IdentityStore := #[]
  keyringNames : TextMap Nat := []
  listeners : Array ListenerSlot := #[]
  listenerNames : TextMap Nat := []
  ports : Ports := {}
  /-- Every port a listener of the script was bound to. -/
  listenerPorts : List Nat := []
  /-- The seed of the next generated key. -/
  seed : Nat := 0
  /-- Leaf certificates in order of first appearance in an answer. -/
  leaves : Array ByteArray := #[]
  /-- Leaf certificates generated with the default lifetime. -/
  generated : List ByteArray := []
  /-- How many temporary directories were made beside the script's directory. -/
  scratchDirs : Nat := 0
  deriving Inhabited

/-- Steps of a script: they change the world; a step that cannot be read fails. -/
abbrev Step := StateT World Read

/-- A database step's answer: a value or the store's error. -/
abbrev StoreStep := ExceptT StoreError Step

namespace World

/-- Runs a host computation. -/
def onHostState {α : Type} (x : StateM Host α) : Step α := do
  let w ← get
  let (a, h) := x.run w.host
  set { w with host := h }
  pure a

/-- Runs a host operation. -/
def onHost {α : Type} (m : StoreM α) : StoreStep α := do
  let r : Except StoreError α ← ExceptT.lift (onHostState m.run)
  match r with
  | .ok a => pure a
  | .error e => throw e

/-- Runs a host operation whose failures cannot happen or do not matter. -/
def hostQuiet (m : StoreM Unit) : Step Unit := do
  let _ ← onHostState m.run

/-- The runtime replicators run in, with a given meaning of resolver calls. -/
def runtime (resolve : Nat → Conflict → Step Document) : Runtime Step Nat :=
  { host := onHostState, resolve }

/-- The runtime of replicators that are only being stopped: no resolver is called then. -/
def stopping : Runtime Step Nat := runtime fun _ c => pure c.standardChoice

/-- The engine of a replicator. -/
def engine (rt : Runtime Step Nat) (slot : ReplicatorSlot) : Engine Step Nat :=
  { runtime := rt, config := slot.config, checkpointId := slot.checkpointId, resource := slot.actor }

/-- Runs a replicator computation on replicator `i`. -/
def withReplicator {α : Type} (rt : Runtime Step Nat) (i : Nat)
    (f : Engine Step Nat → EngineM Step α) : Step α := do
  let slot := (← get).replicators.getD i default
  let (a, state) ← (f (engine rt slot)).run slot.state
  modify fun w => { w with replicators := w.replicators.modify i fun r => { r with state } }
  pure a

/-- Whether an active resource is still held. -/
def alive (w : World) (actor : Nat) : Bool :=
  match w.actors.getD actor default with
  | .probe i => (w.probes.getD i default).held
  | .replicator i => (w.replicators.getD i default).alive
  | .listener i => (w.listeners.getD i default).held

/-- Stops a listener: it lets go of its port and its registration. -/
def stopListener (i : Nat) : Step Unit := do
  let slot := (← get).listeners.getD i default
  match slot.running with
  | none => pure ()
  | some b =>
    modify fun w => { w with
      listeners := w.listeners.modify i fun l => { l with running := none },
      ports := w.ports.release b.address b.port }
    hostQuiet (do let _ ← Host.unregister slot.config.database b.token)

/-- Stops an active resource of database `h`. A test resource counts the stop, and may
unregister itself; a replicator stops its run. -/
def stopActor (mode : StopMode) (h actor : Nat) : Step Unit := do
  match (← get).actors.getD actor default with
  | .probe i =>
    let p := (← get).probes.getD i default
    modify fun w => { w with probes := w.probes.modify i fun p => { p with stops := p.stops + 1 } }
    if p.selfUnregister then
      for (db, token) in p.registrations do
        if db == h then hostQuiet (do let _ ← Host.unregister h token)
  | .replicator i =>
    withReplicator stopping i fun e => do
      modify fun r => { r with stopping := true }
      if mode == .detach then Engine.detach else e.stop
  | .listener i => stopListener i

/-- Closes a database: every live resource is stopped first. -/
def close (h : Nat) (mode : StopMode := .wait) : StoreStep Unit := do
  match ← onHost (Host.beginClose h) with
  | none => pure ()
  | some resources =>
    for r in resources do
      if (← get).alive r then stopActor mode h r
    onHost (Host.finishClose h)

/-- Whether anything still names a handle. -/
def named (w : World) (h : Nat) : Bool :=
  w.databases.any (·.2 == h) || w.replicators.any (·.uses h) ||
    w.listeners.any fun l => l.held && l.config.database == h

/-- Releases a handle nothing names any more: it is closed, whatever the outcome, and lets go
of its channels and directory. -/
def collect (h : Nat) : Step Unit := do
  let w ← get
  if !w.named h && !(w.host.databases.getD h default).released then
    let _ ← (close h).run
    hostQuiet (Host.release h)

/-- The handle under a key; an unknown key opens an in-memory database named after it. -/
def handle (key : String) : Step Nat := do
  match (← get).databases.get? key with
  | some h => pure h
  | none =>
    let h ← onHostState (do
      match ← (Host.openInMemory key).run with
      | .ok h => pure h
      | .error _ => pure 0)
    modify fun w => { w with databases := w.databases.insert key h }
    pure h

/-- Binds a key to a handle, releasing the handle it named before. -/
def bind (key : String) (h : Nat) : Step Unit := do
  let old := (← get).databases.get? key
  modify fun w => { w with databases := w.databases.insert key h }
  match old with
  | some o => if o != h then collect o
  | none => pure ()

/-- Forgets a key; whether it was bound. -/
def unbind (key : String) : Step Bool := do
  match (← get).databases.get? key with
  | some h =>
    modify fun w => { w with databases := w.databases.erase key }
    collect h
    pure true
  | none => pure false

/-- The database behind a handle. -/
def database (h : Nat) : Step Database := do
  pure ((← get).host.databases.getD h default)

/-- Adds an active resource; its number. -/
def addActor (a : Actor) : Step Nat := do
  let w ← get
  set { w with actors := w.actors.push a }
  pure w.actors.size

end World

end Service

end RevSync
