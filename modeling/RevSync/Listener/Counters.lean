import RevSync.Listener.Config

/-!
# Connection accounting

A listener counts its open sockets and, among them, the connections whose replication session was
accepted. Both counts change under one lock, in `ListenerStatus`. Each accepted socket holds a
guard that remembers whether it counts itself as active: only its first activation counts, only
deactivating or dropping an active guard uncounts it, and dropping the guard also uncounts the
socket. Decrements stop at zero.

The counts are unbounded numbers: each one counts live guards, and no host holds more of those
than a 64-bit count can hold.
-/

namespace RevSync

/-- The guard of one accepted socket: whether it counts as active. -/
structure ConnectionGuard where
  active : Bool := false
  deriving DecidableEq, Inhabited

/-- Counts a newly accepted socket, which gets a guard that is not active yet. -/
def ListenerStatus.openConnection (s : ListenerStatus) : ListenerStatus × ConnectionGuard :=
  ({ s with connections := s.connections + 1 }, {})

namespace ConnectionGuard

/-- Marks the connection active; only the first call counts. -/
def activate (g : ConnectionGuard) (s : ListenerStatus) : ConnectionGuard × ListenerStatus :=
  if g.active then (g, s) else ({ active := true }, { s with active := s.active + 1 })

/-- Marks the session finished while the socket may still be open; only the first call after an
activation counts. -/
def deactivate (g : ConnectionGuard) (s : ListenerStatus) : ConnectionGuard × ListenerStatus :=
  if g.active then ({ active := false }, { s with active := s.active - 1 }) else (g, s)

/-- Lets go of the guard: a connection still active stops counting as active, and the socket
stops counting as open. -/
def drop (g : ConnectionGuard) (s : ListenerStatus) : ListenerStatus :=
  let s := (g.deactivate s).2
  { s with connections := s.connections - 1 }

end ConnectionGuard

end RevSync
