import RevSync.Host.Address

/-!
# Listening ports

The host's table of listening sockets. A socket binds an address and a port; it cannot take a
port that a socket on an overlapping address already holds (see `IpAddr.overlaps`). Port 0 asks
for an ephemeral port: the next free one from a cursor that only moves forward, so that a port
just released is not handed out again at once.
-/

namespace RevSync

/-- The first ephemeral port. -/
def firstEphemeralPort : Nat := 32768

/-- The listening sockets of the host. -/
structure Ports where
  bound : List (IpAddr × Nat) := []
  next : Nat := firstEphemeralPort
  deriving Inhabited

namespace Ports

/-- Whether a socket at this address and port would collide with a bound one. -/
def taken (t : Ports) (ip : IpAddr) (port : Nat) : Bool :=
  t.bound.any fun (a, p) => p == port && a.overlaps ip

/-- The first port from `start` on that is free at `ip`, looking at most `fuel` ports ahead. -/
def freeFrom (t : Ports) (ip : IpAddr) : Nat → Nat → Nat
  | 0, start => start
  | fuel + 1, start => if t.taken ip start then t.freeFrom ip fuel (start + 1) else start

/-- Binds an address: the port it got, or none when the port is in use. -/
def bind (t : Ports) (ip : IpAddr) (port : Nat) : Option (Nat × Ports) :=
  if port == 0 then
    let p := t.freeFrom ip (t.bound.length + 1) t.next
    some (p, { bound := (ip, p) :: t.bound, next := p + 1 })
  else if t.taken ip port then none
  else some (port, { t with bound := (ip, port) :: t.bound })

/-- Lets go of a bound socket. -/
def release (t : Ports) (ip : IpAddr) (port : Nat) : Ports :=
  { t with bound := t.bound.erase (ip, port) }

end Ports

end RevSync
