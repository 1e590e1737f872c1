import RevSync.Store.Error
import RevSync.Protocol.Error
import RevSync.Protocol.ErrorCode
import RevSync.Tls.Error

/-!
# Replication errors

Every way a replication can fail. Errors are sorted into three overlapping families: transient
ones (the network; worth another attempt), retryable ones (transient, except that a peer going
away is retried only by continuous replications), and authentication failures (certificates and
credentials).

Errors of the layers below are converted here: a store conflict stays a conflict and every other
store error becomes a database error; a protocol I/O error is classified as a network error,
certificate faults first; a peer's error code picks the family the code stands for.
-/

namespace RevSync

/-- Why a replication failed. -/
inductive ReplicationError where
  | networkUnreachable (message : String)
  | connectionRefused (message : String)
  | network (message : String)
  | tlsCertUnknownRoot
  | tlsCertUntrusted
  | tlsClientCertRejected
  | httpAuthRequired (message : String)
  | httpForbidden (message : String)
  | notFound (message : String)
  | conflict (docId : String)
  | unsupported (message : String)
  | webSocketGoingAway (message : String)
  | protocol (message : String)
  | database (message : String)
  | tls (message : String)
  | invalidConfiguration (message : String)
  deriving DecidableEq, Repr, Inhabited

namespace ReplicationError

/-- The error's message. -/
def message : ReplicationError → String
  | .networkUnreachable m => "network unreachable: " ++ m
  | .connectionRefused m => "connection refused: " ++ m
  | .network m => "network error: " ++ m
  | .tlsCertUnknownRoot => "server certificate has an unknown root"
  | .tlsCertUntrusted => "server certificate is not trusted"
  | .tlsClientCertRejected => "client certificate rejected by peer"
  | .httpAuthRequired m => "authentication required: " ++ m
  | .httpForbidden m => "forbidden: " ++ m
  | .notFound m => "not found: " ++ m
  | .conflict d => "conflict on document " ++ d
  | .unsupported m => "unsupported: " ++ m
  | .webSocketGoingAway m => "peer going away: " ++ m
  | .protocol m => "protocol error: " ++ m
  | .database m => "database error: " ++ m
  | .tls m => "TLS error: " ++ m
  | .invalidConfiguration m => "invalid configuration: " ++ m

/-- The name of the error's kind. -/
def kindName : ReplicationError → String
  | .networkUnreachable _ => "NetworkUnreachable"
  | .connectionRefused _ => "ConnectionRefused"
  | .network _ => "Network"
  | .tlsCertUnknownRoot => "TlsCertUnknownRoot"
  | .tlsCertUntrusted => "TlsCertUntrusted"
  | .tlsClientCertRejected => "TlsClientCertRejected"
  | .httpAuthRequired _ => "HttpAuthRequired"
  | .httpForbidden _ => "HttpForbidden"
  | .notFound _ => "NotFound"
  | .conflict _ => "Conflict"
  | .unsupported _ => "Unsupported"
  | .webSocketGoingAway _ => "WebSocketGoingAway"
  | .protocol _ => "Protocol"
  | .database _ => "Database"
  | .tls _ => "Tls"
  | .invalidConfiguration _ => "InvalidConfiguration"

/-- The error's debugging text: the kind, with its message quoted when it has one. -/
def debugText (e : ReplicationError) : String :=
  match e with
  | .tlsCertUnknownRoot | .tlsCertUntrusted | .tlsClientCertRejected => e.kindName
  | .conflict d => "Conflict \x7b doc_id: " ++ Text.quote d ++ " \x7d"
  | .networkUnreachable m | .connectionRefused m | .network m | .httpAuthRequired m
  | .httpForbidden m | .notFound m | .unsupported m | .webSocketGoingAway m | .protocol m
  | .database m | .tls m | .invalidConfiguration m => e.kindName ++ "(" ++ Text.quote m ++ ")"

/-- Whether the error comes from the network and may clear up by itself. -/
def isTransient : ReplicationError → Bool
  | .networkUnreachable _ | .connectionRefused _ | .network _ | .webSocketGoingAway _ => true
  | _ => false

/-- Whether a replication should try again after this error. -/
def isRetryable (e : ReplicationError) (continuous : Bool) : Bool :=
  match e with
  | .webSocketGoingAway _ => continuous
  | other => other.isTransient

/-- Whether the error is a refused certificate or missing credentials. -/
def isAuthFailure : ReplicationError → Bool
  | .tlsCertUnknownRoot | .tlsCertUntrusted | .tlsClientCertRejected | .httpAuthRequired _ => true
  | _ => false

/-- The error a peer's error code stands for. -/
def ofPeer (code : ErrorCode) (message : String) : ReplicationError :=
  if code == .unauthorized then .httpAuthRequired message
  else if code == .forbidden then .httpForbidden message
  else if code == .notFound then .notFound message
  else if code == .goingAway then .webSocketGoingAway message
  else if code == .protocol || code == .upgradeRequired then .protocol message
  else .network ("peer error " ++ code.toText ++ ": " ++ message)

/-- The error an I/O failure stands for: certificate faults first, then by the failure's kind. -/
def ofIo (e : IoError) : ReplicationError :=
  match e.tlsFailure? with
  | some .unknownRoot => .tlsCertUnknownRoot
  | some .untrusted => .tlsCertUntrusted
  | some .clientCertRejected => .tlsClientCertRejected
  | none =>
    match e.kind with
    | .connectionRefused => .connectionRefused e.message
    | .timedOut | .addrNotAvailable | .notFound => .networkUnreachable e.message
    | _ => .network e.message

/-- A store error as a replication error: conflicts keep their document. -/
def ofStore : StoreError → ReplicationError
  | .conflict d => .conflict d
  | other => .database other.message

/-- A protocol error as a replication error. -/
def ofProtocol : ProtocolError → ReplicationError
  | .io e => ofIo e
  | .connectionClosed => .network "connection closed by peer"
  | other => .protocol other.message

/-- A TLS error as a replication error. -/
def ofTls (e : TlsError) : ReplicationError := .tls e.message

end ReplicationError

end RevSync
