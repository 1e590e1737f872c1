import RevSync.Replication.Resolve
import RevSync.Service.Request

/-!
# Scripted resolvers

A script describes a conflict resolver by what it picks and, call by call, what it does to the
local database first. Every call is logged with the conflict it saw and the effect's outcome, so
that a script can tell how resolution went.
-/

namespace RevSync

namespace Service

/-- What a scripted resolver picks. -/
inductive Pick where
  | standard
  | remote
  | localSide
  | current
  | tombstone
  /-- The remote properties, overwritten by the local ones. -/
  | union
  /-- A new document with these properties. -/
  | merge (body : Fields)
  /-- A new document whose one property joins the local and remote texts of a key. -/
  | concat (key : String)
  deriving Inhabited

/-- What a scripted resolver does to the local database before picking. -/
inductive Effect where
  | save (body : Fields)
  | delete
  | purge
  | storeRemote
  | applyRemote
  | close
  deriving Inhabited

/-- A scripted resolver: call `n` does step `n`, later calls pick `after`. -/
structure ResolverSpec where
  steps : List (Option Effect × Pick) := []
  after : Pick := .remote
  deriving Inhabited

/-- A scripted resolver in use: its spec, how often it was called, and its log. -/
structure ResolverRun where
  spec : ResolverSpec
  calls : Nat := 0
  log : List Json := []
  deriving Inhabited

/-- Reads a pick. -/
def readPick : Json → Read Pick
  | .str "default" => pure .standard
  | .str "remote" => pure .remote
  | .str "local" => pure .localSide
  | .str "current" => pure .current
  | .str "tombstone" => pure .tombstone
  | .str "union" => pure .union
  | .obj [("merge", body)] => .merge <$> asFields body
  | .obj [("concat", key)] => .concat <$> asText key
  | _ => unreadable

/-- Reads an effect. -/
def readEffect : Json → Read Effect
  | .str "delete" => pure .delete
  | .str "purge" => pure .purge
  | .str "store_remote" => pure .storeRemote
  | .str "apply_remote" => pure .applyRemote
  | .str "close" => pure .close
  | .obj [("save", body)] => .save <$> asFields body
  | _ => unreadable

/-- Reads a resolver spec; a closure around a spec behaves as the spec. -/
def readResolver (v : Json) : Read ResolverSpec := do
  if let some inner := v.get? "closure" then
    return ← readPlain inner
  readPlain v
where
  readPlain (v : Json) : Read ResolverSpec := do
    match v.get? "steps" with
    | some steps =>
      let steps ← (← asList steps).mapM fun st => do
        let effect ← optional st "effect" readEffect
        let pick ← (·.getD .remote) <$> optional st "pick" readPick
        pure (effect, pick)
      let after ← (·.getD .remote) <$> optional v "then" readPick
      pure { steps, after }
    | none => do
      let p ← readPick v
      pure { after := p }

/-- The text of a property, empty when missing or not text. -/
def textOf (d : Document) (key : String) : String := (d.getText? key).getD ""

/-- The document a pick chooses. -/
def Pick.choose (p : Pick) (c : Conflict) : Document :=
  match p with
  | .standard => c.standardChoice
  | .remote => c.remote
  | .localSide => c.localDoc
  | .current => c.current.getD c.localDoc
  | .tombstone => { id := c.docId, deleted := true }
  | .union => Document.withProperties c.docId
      (c.localDoc.properties.foldl (fun m (k, v) => m.insert k v) c.remote.properties)
  | .merge body => Document.withProperties c.docId body
  | .concat key => Document.withProperties c.docId
      [(key, .str (textOf c.localDoc key ++ "+" ++ textOf c.remote key))]

end Service

end RevSync
