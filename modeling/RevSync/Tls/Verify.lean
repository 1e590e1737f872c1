import RevSync.Tls.Authenticator
import RevSync.Tls.Fault
import RevSync.X509.Signature

/-!
# Certificate verification

A replicator trusts a server certificate by one of three policies, and keeps the leaf each
server presents, trusted or not, in its peer-certificate slot. A pinned certificate must be
the presented leaf byte for byte, and nothing else is checked. Self-signed-only mode accepts a
leaf within its validity period that is self-signed. Otherwise the leaf, within its validity
period, must be one of the trusted roots or be signed by one whose subject is the leaf's issuer.

A listener checks client certificates with a predicate on the presented chain or against roots
as above; a refusal is an application verification failure.
-/

namespace RevSync

/-- How a replicator trusts server certificates. -/
inductive ServerTrust where
  | pinned (certificate : ByteArray)
  | selfSignedOnly
  | roots (certificates : List ByteArray)

namespace ServerTrust

/-- The policy of replicator settings: a pin wins over the self-signed flag. -/
def ofSettings (pinned : Option ByteArray) (selfSignedOnly : Bool) (roots : List ByteArray) :
    ServerTrust :=
  match pinned with
  | some pin => .pinned pin
  | none => if selfSignedOnly then .selfSignedOnly else .roots roots

/-- The policy's name in debugging output. -/
def modeName : ServerTrust → String
  | .pinned _ => "pinned"
  | .selfSignedOnly => "self-signed-only"
  | .roots _ => "roots"

end ServerTrust

/-- Checks that a moment lies in a certificate's validity period. -/
def checkValidity (c : X509.Certificate) (now : Int) : Except CertificateFault Unit :=
  if now < c.notBefore then .error .notValidYet
  else if now > c.notAfter then .error .expired
  else .ok ()

/-- Parses a presented certificate. -/
def parsePresented (der : ByteArray) : Except CertificateFault X509.Certificate :=
  match X509.parse der with
  | some c => .ok c
  | none => .error .badEncoding

/-- Accepts a leaf that is one of the roots or is signed by one. -/
def verifyAgainstRoots (leaf : ByteArray) (roots : List ByteArray) (now : Int) :
    Except CertificateFault Unit := do
  let cert ← parsePresented leaf
  checkValidity cert now
  let trusted := roots.any fun root =>
    root.data == leaf.data ||
      match X509.parse root with
      | some r => r.subject.data == cert.issuer.data && cert.signedBy r.keyAlgorithm r.publicKey
      | none => false
  if trusted then pure () else throw .unknownIssuer

/-- Verifies a server's leaf certificate under a trust policy. -/
def verifyServer (trust : ServerTrust) (leaf : ByteArray) (now : Int) : Except CertificateFault Unit :=
  match trust with
  | .pinned pin => if pin.data == leaf.data then .ok () else .error .unknownIssuer
  | .selfSignedOnly => do
    let cert ← parsePresented leaf
    checkValidity cert now
    if cert.selfSigned then pure () else throw .applicationVerificationFailure
  | .roots roots => verifyAgainstRoots leaf roots now

/-- Verifies a server's leaf certificate as a handshake does: the leaf is first kept as the
peer's certificate, whatever the verdict. -/
def verifyServerCert (trust : ServerTrust) (leaf : ByteArray) (now : Int) :
    StateM (Option ByteArray) (Except CertificateFault Unit) := do
  set (some leaf)
  pure (verifyServer trust leaf now)

/-- Verifies a client's chain, leaf first, with a listener's check. -/
def verifyClient (check : CertificateCheck) (leaf : ByteArray) (intermediates : List ByteArray)
    (now : Int) : Except CertificateFault Unit :=
  let accepted := match check with
    | .predicate accepts => accepts (leaf :: intermediates)
    | .roots roots => (verifyAgainstRoots leaf roots now).isOk
  if accepted then .ok () else .error .applicationVerificationFailure

end RevSync
