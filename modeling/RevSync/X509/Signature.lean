import RevSync.X509.Certificate
import RevSync.Crypto.P256
import RevSync.Crypto.Ed25519
import RevSync.Crypto.Sha512
import RevSync.Crypto.Sha256

/-!
# Certificate signatures

A certificate's signature is checked over the encoding of its to-be-signed part with a subject
public key: the issuer's, or its own for a self-signed certificate. The algorithms are ECDSA on
P-256 with SHA-256 or SHA-384 (the curve named by the key's parameters; the digest is cut to its
first 256 bits) and Ed25519. An ECDSA key is an uncompressed point `04 ‖ x ‖ y` and a signature
the DER `SEQUENCE { INTEGER r, INTEGER s }` with nothing around it. Any other algorithm or
curve is not accepted.

A certificate is self-signed when its issuer name is its subject name and its signature checks
with its own key.
-/

namespace RevSync

namespace X509

/-- The `(r, s)` of a DER ECDSA signature. -/
def ecdsaComponents (sig : ByteArray) : Option (Nat × Nat) := do
  let item ← Der.single sig
  if item.tag != Der.tagSequence then none
  match ← Der.items item.content with
  | [r, s] =>
    if r.tag != Der.tagInteger || s.tag != Der.tagInteger then none
    pure (← Der.natural r.content, ← Der.natural s.content)
  | _ => none

/-- Whether an ECDSA P-256 signature over a message checks with an uncompressed public point,
the digest being SHA-256 or SHA-384. -/
def verifyP256 (wide : Bool) (key message sig : ByteArray) : Bool :=
  if key.size != 65 || key.get! 0 != 0x04 then false
  else
    match ecdsaComponents sig with
    | none => false
    | some (r, s) =>
      let digest := if wide then (sha384 message).extract 0 32 else sha256 message
      P256.verify (natOfBytesBE (key.extract 1 33)) (natOfBytesBE (key.extract 33 65))
        (natOfBytesBE digest) r s

/-- Whether the certificate's signature checks with a subject public key. -/
def Certificate.signedBy (c : Certificate) (keyAlgorithm : Algorithm) (key : ByteArray) : Bool :=
  let curve := keyAlgorithm.parameters.bind fun p =>
    if p.tag == Der.tagOid then some p.content.toList else none
  let sig := c.signatureAlgorithm.oid
  if sig == oidEcdsaSha256 || sig == oidEcdsaSha384 then
    curve == some oidP256 && verifyP256 (sig == oidEcdsaSha384) key c.tbs c.signature
  else if sig == oidEd25519 then Ed25519.verify key c.tbs c.signature
  else false

/-- Whether the certificate is self-signed. -/
def Certificate.selfSigned (c : Certificate) : Bool :=
  c.issuer.data == c.subject.data && c.signedBy c.keyAlgorithm c.publicKey

/-- Whether DER bytes hold a self-signed certificate. -/
def isSelfSigned (der : ByteArray) : Bool :=
  match parse der with
  | some c => c.selfSigned
  | none => false

end X509

end RevSync
