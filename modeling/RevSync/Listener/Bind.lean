import RevSync.Listener.Config
import RevSync.Host.Address
import RevSync.Replication.Endpoint

/-!
# Where a listener binds

The configured interface is an IP address, the name of a network interface, or a host name; no
interface means every interface (the IPv4 wildcard). Names are looked up in that order: the
host's interfaces (this host shows none), then the resolver, which knows `localhost` as the
loopback address. A name neither finds is an invalid configuration.

A listener bound to one address is reached at that address; one bound to a wildcard is reached
at the IPv4 loopback address first, then at each usable address of the host's interfaces.
-/

namespace RevSync

namespace Listener

/-- The host's network interfaces, by name and address. -/
def interfaceAddresses : List (String × IpAddr) := []

/-- The addresses the resolver gives a host name. -/
def resolveHost (name : String) : List IpAddr :=
  if name == "localhost" then [IpAddr.localhost] else []

/-- Whether an interface address is worth binding or advertising: neither unspecified nor
link-local (`169.254.0.0/16`, `fe80::/10`). -/
def usable : IpAddr → Bool
  | .v4 os => !os.all (· == 0) && !(os.take 2 == [169, 254])
  | .v6 gs => !gs.all (· == 0) && (gs.headD 0 &&& 0xffc0) != 0xfe80

/-- The address of a named interface, IPv4 first. -/
def addressOfInterface (name : String) (addresses : List (String × IpAddr)) : Option IpAddr :=
  let candidates := (addresses.filter fun (n, ip) => n == name && usable ip).map (·.2)
  (candidates.filter IpAddr.isV4 ++ candidates.filter (!·.isV4)).head?

/-- The address to bind for the configured interface. -/
def bindAddress (networkInterface : Option String) : Except ListenerError IpAddr :=
  match networkInterface with
  | none => .ok (.v4 [0, 0, 0, 0])
  | some name =>
    match IpAddr.parse? name with
    | some ip => .ok ip
    | none =>
      match addressOfInterface name interfaceAddresses with
      | some ip => .ok ip
      | none =>
        match resolveHost name with
        | ip :: _ => .ok ip
        | [] => .error (.invalidConfiguration ("unknown network interface " ++ Text.quote name))

/-- The addresses a listener bound to a wildcard advertises, among candidate interface addresses:
the IPv4 loopback address first, then each usable candidate that is not a loopback address, once,
and for an IPv4 wildcard only IPv4 ones. -/
def selectAddresses (bound : IpAddr) (candidates : List IpAddr) : List IpAddr :=
  candidates.foldl (fun acc ip =>
    if ip.isLoopback || !usable ip || (bound.isV4 && !ip.isV4) || acc.contains ip then acc
    else acc ++ [ip]) [IpAddr.localhost]

/-- The addresses a listener bound to `bound` is reached at, on a host with these interfaces. -/
def reachableAddresses (interfaces : List (String × IpAddr)) (bound : IpAddr) : List IpAddr :=
  if !bound.isUnspecified then [bound]
  else selectAddresses bound (interfaces.map (·.2))

/-- The URLs a listener bound to `bound` and `port` advertises, on a host with these interfaces. -/
def urls (interfaces : List (String × IpAddr)) (bound : IpAddr) (port : UInt16) (tls : Bool)
    (database : String) : List EndpointUrl :=
  (reachableAddresses interfaces bound).map fun ip => { tls, host := ip.toText, port, database }

end Listener

end RevSync
