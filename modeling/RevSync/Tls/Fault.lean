/-!
# TLS faults

Why a TLS handshake failed: a certificate the local side refused, or an alert the peer sent.
Each has a name, which is how it is written in messages.
-/

namespace RevSync

/-- Why a presented certificate was refused. -/
inductive CertificateFault where
  | badEncoding
  | expired
  | notValidYet
  | revoked
  | unhandledCriticalExtension
  | unknownIssuer
  | badSignature
  | notValidForName
  | invalidPurpose
  | applicationVerificationFailure
  deriving DecidableEq, Repr, Inhabited

namespace CertificateFault

/-- The fault's name. -/
def name : CertificateFault → String
  | .badEncoding => "BadEncoding"
  | .expired => "Expired"
  | .notValidYet => "NotValidYet"
  | .revoked => "Revoked"
  | .unhandledCriticalExtension => "UnhandledCriticalExtension"
  | .unknownIssuer => "UnknownIssuer"
  | .badSignature => "BadSignature"
  | .notValidForName => "NotValidForName"
  | .invalidPurpose => "InvalidPurpose"
  | .applicationVerificationFailure => "ApplicationVerificationFailure"

/-- Every fault, for reading names. -/
def all : List CertificateFault :=
  [.badEncoding, .expired, .notValidYet, .revoked, .unhandledCriticalExtension, .unknownIssuer,
   .badSignature, .notValidForName, .invalidPurpose, .applicationVerificationFailure]

/-- The fault with a given name. -/
def ofName? (s : String) : Option CertificateFault := all.find? (·.name == s)

end CertificateFault

/-- An alert a TLS peer sends before closing. -/
inductive Alert where
  | badCertificate
  | certificateRequired
  | unknownCA
  | certificateUnknown
  | certificateExpired
  | certificateRevoked
  | unsupportedCertificate
  | accessDenied
  | handshakeFailure
  | decryptError
  | protocolVersion
  | internalError
  | closeNotify
  deriving DecidableEq, Repr, Inhabited

namespace Alert

/-- The alert's name. -/
def name : Alert → String
  | .badCertificate => "BadCertificate"
  | .certificateRequired => "CertificateRequired"
  | .unknownCA => "UnknownCA"
  | .certificateUnknown => "CertificateUnknown"
  | .certificateExpired => "CertificateExpired"
  | .certificateRevoked => "CertificateRevoked"
  | .unsupportedCertificate => "UnsupportedCertificate"
  | .accessDenied => "AccessDenied"
  | .handshakeFailure => "HandshakeFailure"
  | .decryptError => "DecryptError"
  | .protocolVersion => "ProtocolVersion"
  | .internalError => "InternalError"
  | .closeNotify => "CloseNotify"

/-- Every alert, for reading names. -/
def all : List Alert :=
  [.badCertificate, .certificateRequired, .unknownCA, .certificateUnknown, .certificateExpired,
   .certificateRevoked, .unsupportedCertificate, .accessDenied, .handshakeFailure, .decryptError,
   .protocolVersion, .internalError, .closeNotify]

/-- The alert with a given name. -/
def ofName? (s : String) : Option Alert := all.find? (·.name == s)

/-- Alerts by which a server refuses the client's certificate. -/
def refusesClientCertificate : Alert → Bool
  | .badCertificate | .certificateRequired | .unknownCA | .certificateUnknown
  | .certificateExpired | .certificateRevoked | .unsupportedCertificate | .accessDenied => true
  | _ => false

end Alert

/-- What a failed handshake says about certificates. -/
inductive TlsFailure where
  /-- The peer's certificate chains to no trusted root. -/
  | unknownRoot
  /-- The peer's certificate is refused for another reason. -/
  | untrusted
  /-- The peer refused our client certificate. -/
  | clientCertRejected
  deriving DecidableEq, Repr, Inhabited

namespace TlsFailure

/-- The failure's name. -/
def name : TlsFailure → String
  | .unknownRoot => "UnknownRoot"
  | .untrusted => "Untrusted"
  | .clientCertRejected => "ClientCertRejected"

end TlsFailure

/-- A failed TLS handshake. -/
inductive TlsFault where
  | certificate (fault : CertificateFault)
  | alert (alert : Alert)
  deriving DecidableEq, Repr, Inhabited

namespace TlsFault

/-- The fault's message. -/
def message : TlsFault → String
  | .certificate f => "invalid peer certificate: " ++ f.name
  | .alert a => "received fatal alert: " ++ a.name

/-- How a fault reflects on certificates: unknown root, untrusted, or our own certificate
refused; `none` for faults that say nothing about certificates. -/
def failure? : TlsFault → Option TlsFailure
  | .certificate .unknownIssuer => some .unknownRoot
  | .certificate _ => some .untrusted
  | .alert a => if a.refusesClientCertificate then some .clientCertRejected else none

end TlsFault

end RevSync
