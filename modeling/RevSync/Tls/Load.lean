import RevSync.Tls.Identity
import RevSync.Tls.Error
import RevSync.Tls.Pem
import RevSync.X509.Signature

/-!
# Loading identities

An identity is built from a DER chain and a private key: the chain must not be empty, the leaf
must parse (its expiry is the identity's), and the key must be PKCS#8, PKCS#1 or SEC1 DER, told
apart by the version that follows the outer SEQUENCE. From PEM, the certificates are every
`CERTIFICATE` section and the key is the first private key section; a PEM error in the
certificates is a certificate error, one before the key a key error.
-/

namespace RevSync

/-- The encoding of a private key. -/
inductive KeyFormat where
  | pkcs8
  | pkcs1
  | sec1
  deriving DecidableEq, Repr, Inhabited

/-- The format of a private key's DER, from the bytes after the outer SEQUENCE header. -/
def keyFormat (der : ByteArray) : Option KeyFormat := do
  if der.size < 2 || der.get! 0 != 0x30 then none
  let lenByte := der.get! 1
  let skip := if lenByte ≥ 0x80 then 2 + (lenByte - 0x80).toNat else 2
  if skip > der.size then none
  match (der.extract skip der.size).toList with
  | 0x02 :: 0x01 :: _ :: 0x30 :: _ => some .pkcs8
  | 0x02 :: 0x01 :: 0x00 :: _ => some .pkcs1
  | 0x02 :: 0x01 :: 0x01 :: _ => some .sec1
  | _ => none

namespace TlsIdentity

/-- The identity of a DER chain, leaf first, and a private key. -/
def ofParts (certificates : List ByteArray) (key : ByteArray) : Except TlsError TlsIdentity := do
  let leaf ← match certificates with
    | leaf :: _ => pure leaf
    | [] => throw (.invalidCertificate "empty certificate chain")
  let cert ← match X509.parse leaf with
    | some c => pure c
    | none => throw (.invalidCertificate "unparsable certificate")
  if (keyFormat key).isNone then throw (.invalidPrivateKey "unknown or invalid key format")
  pure { certificates, key, expiration := { seconds := cert.notAfter } }

/-- The identity in a PEM text. -/
def ofPem (text : String) : Except TlsError TlsIdentity := do
  let certs ← match Pem.certificates text with
    | .ok cs => pure cs
    | .error e => throw (.invalidCertificate e.message)
  let key ← match Pem.privateKey text with
    | .ok (some k) => pure k
    | .ok none => throw (.invalidPrivateKey "no private key in PEM data")
    | .error e => throw (.invalidPrivateKey e.message)
  ofParts certs key

/-- The leaf's first common name, if it is text. -/
def commonName (i : TlsIdentity) : Option String := (X509.parse i.leaf).bind (·.commonName)

/-- Whether the leaf is self-signed. -/
def selfSigned (i : TlsIdentity) : Bool := X509.isSelfSigned i.leaf

/-- The chain and the key as PEM. -/
def toPem (i : TlsIdentity) : String :=
  String.join (i.certificates.map (Pem.block "CERTIFICATE")) ++ Pem.block "PRIVATE KEY" i.key

/-- Whether the leaf has expired at a moment. -/
def expiredAt (i : TlsIdentity) (now : Int) : Bool := i.expiration.seconds ≤ now

end TlsIdentity

end RevSync
