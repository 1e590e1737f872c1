import RevSync.Tls.Identity

/-!
# Authenticators

Credentials a replicator presents, and checks a listener applies. A replicator may present Basic
credentials or a client certificate; a listener may check a user name and password, or the client
certificate chain (by a predicate or against trusted roots). Each kind belongs to one side only.
-/

namespace RevSync

/-- How a listener judges a client certificate chain. -/
inductive CertificateCheck where
  /-- A predicate on the chain, leaf first. -/
  | predicate (accepts : List ByteArray → Bool)
  /-- The chain must lead to one of these roots. -/
  | roots (certificates : List ByteArray)

/-- Credentials or checks. -/
inductive Authenticator where
  | none
  | basic (username password : String)
  | clientCertificate (identity : TlsIdentity)
  | password (accepts : String → String → Bool)
  | certificate (check : CertificateCheck)

namespace Authenticator

/-- Whether the authenticator is a listener's check. -/
def isListenerSide : Authenticator → Bool
  | .password _ | .certificate _ => true
  | _ => false

/-- Whether the authenticator is a replicator's credential. -/
def isReplicatorSide : Authenticator → Bool
  | .basic _ _ | .clientCertificate _ => true
  | _ => false

/-- The authenticator's debugging text; passwords and keys are never shown. -/
def describe : Authenticator → String
  | .none => "Authenticator::None"
  | .basic u _ => "Authenticator::Basic \x7b username: " ++ Text.quote u ++
      ", password: \"[REDACTED]\" \x7d"
  | .clientCertificate i => "Authenticator::ClientCertificate(" ++ i.describe ++ ")"
  | .password _ => "Authenticator::Password"
  | .certificate (.predicate _) => "Authenticator::Certificate(CertificateValidator::Callback)"
  | .certificate (.roots rs) =>
    "Authenticator::Certificate(CertificateValidator::RootCertificates(" ++
      toString rs.length ++ "))"

end Authenticator

end RevSync
