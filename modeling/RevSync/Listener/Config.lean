import RevSync.Tls.Authenticator
import RevSync.Tls.Error
import RevSync.Store.Error

/-!
# Listener configuration

What a listener serves and how: the database, the port (none or 0 for an ephemeral one), the
interface to bind (none for every interface), TLS and the identity it presents (none for the
database's anonymous identity), the authenticator, and the read-only and delta-sync switches.

Only listener-side authenticators fit a listener, and certificate authentication needs TLS;
`ListenerConfig.check` refuses the rest before a listener exists.
-/

namespace RevSync

/-- Why a listener could not be made or started. -/
inductive ListenerError where
  | addressInUse (address : String)
  | tls (e : TlsError)
  | database (e : StoreError)
  | invalidConfiguration (message : String)
  | io (e : IoError)
  deriving Inhabited

namespace ListenerError

/-- The error's message. -/
def message : ListenerError → String
  | .addressInUse a => "address in use: " ++ a
  | .tls e => "TLS error: " ++ e.message
  | .database e => "database error: " ++ e.message
  | .invalidConfiguration m => "invalid configuration: " ++ m
  | .io e => "io error: " ++ e.message

/-- The error's debugging text. -/
def debugText : ListenerError → String
  | .addressInUse a => "AddressInUse(" ++ Text.quote a ++ ")"
  | .tls e => "Tls(" ++ e.debugText ++ ")"
  | .database e => "Database(" ++ e.debugText ++ ")"
  | .invalidConfiguration m => "InvalidConfiguration(" ++ Text.quote m ++ ")"
  | .io e => "Io(" ++ e.debugText ++ ")"

/-- Whether starting again later may succeed without changing the configuration. -/
def isTransient : ListenerError → Bool
  | .addressInUse _ | .io _ => true
  | _ => false

end ListenerError

/-- How a listener is set up; `database` is the handle of the database it serves. -/
structure ListenerConfig where
  database : Nat
  databaseName : String
  port : Option Nat := none
  networkInterface : Option String := none
  disableTls : Bool := false
  identity : Option TlsIdentity := none
  authenticator : Authenticator := .none
  readOnly : Bool := false
  deltaSync : Bool := false
  deriving Inhabited

namespace ListenerConfig

/-- Refuses replicator-side credentials, and certificate authentication without TLS. -/
def check (c : ListenerConfig) : Except ListenerError Unit :=
  if c.authenticator.isReplicatorSide then
    .error (.invalidConfiguration "replicator credentials cannot be used by a listener")
  else match c.authenticator with
    | .certificate _ =>
      if c.disableTls then .error (.invalidConfiguration "client certificate authentication requires TLS")
      else .ok ()
    | _ => .ok ()

/-- The client certificate check of the TLS server, if the authenticator asks for one. -/
def clientCheck (c : ListenerConfig) : Option CertificateCheck :=
  match c.authenticator with
  | .certificate check => some check
  | _ => none

/-- An optional value's debugging text. -/
def optionText {α : Type} (shown : α → String) : Option α → String
  | some a => "Some(" ++ shown a ++ ")"
  | none => "None"

/-- The configuration's debugging text, with the port written by `showPort`. -/
def describe (c : ListenerConfig) (showPort : Nat → String) : String :=
  "ListenerConfiguration \x7b database: " ++ Text.quote c.databaseName ++
    ", port: " ++ optionText showPort c.port ++
    ", network_interface: " ++ optionText Text.quote c.networkInterface ++
    ", disable_tls: " ++ toString c.disableTls ++
    ", tls_identity: " ++ optionText TlsIdentity.describe c.identity ++
    ", authenticator: " ++ c.authenticator.describe ++
    ", read_only: " ++ toString c.readOnly ++
    ", enable_delta_sync: " ++ toString c.deltaSync ++ " \x7d"

end ListenerConfig

namespace Listener

/-- The TLS server setup for a listener's identity and client certificate check. The TLS library
builds it from the certificate chain and the private key; which keys it cannot load lies outside
this library, and every identity listeners are given here loads, so the setup succeeds. -/
def serverConfig (_identity : TlsIdentity) (_check : Option CertificateCheck) :
    Except TlsError Unit :=
  .ok ()

end Listener

/-- Open and active connection counts. -/
structure ListenerStatus where
  connections : Nat := 0
  active : Nat := 0
  deriving Inhabited, DecidableEq

/-- The status's debugging text. -/
def ListenerStatus.describe (s : ListenerStatus) : String :=
  "ListenerStatus \x7b connection_count: " ++ toString s.connections ++
    ", active_connection_count: " ++ toString s.active ++ " \x7d"

end RevSync
