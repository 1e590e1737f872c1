/-!
# Active resources

A database keeps a registry of the long-lived things bound to it, replicators and listeners,
which must be stopped before it closes. Each registration gets a fresh token. The registry only
refers to its resources: whether one is still alive is known to whoever owns it, so counting and
stopping take that knowledge from the caller. Once closing has begun, registrations are refused.
-/

namespace RevSync

/-- The resources registered with one database, by token. -/
structure Registry where
  closing : Bool := false
  lastToken : Nat := 0
  entries : List (Nat × Nat) := []
  deriving Inhabited

namespace Registry

/-- Registers a resource; `none` once the registry is closing. -/
def register (r : Registry) (resource : Nat) : Option (Nat × Registry) :=
  if r.closing then none
  else
    let token := r.lastToken + 1
    some (token, { r with lastToken := token, entries := r.entries ++ [(token, resource)] })

/-- Removes a registration; whether it was there. -/
def unregister (r : Registry) (token : Nat) : Bool × Registry :=
  (r.entries.any (·.1 == token), { r with entries := r.entries.filter (·.1 != token) })

/-- The number of registered resources that are still alive. -/
def liveCount (r : Registry) (alive : Nat → Bool) : Nat :=
  (r.entries.filter fun (_, res) => alive res).length

/-- Starts closing: refuses further registrations and yields the registered resources in token
order, to be stopped by their owners. -/
def beginClosing (r : Registry) : List Nat × Registry :=
  (r.entries.map (·.2), { r with closing := true })

/-- Forgets every registration. -/
def clear (r : Registry) : Registry := { r with entries := [] }

end Registry

end RevSync
