import RevSync.Time.Civil
import RevSync.Text.Quoted

/-!
# TLS identities

An identity is a private key with its certificate chain, leaf first, and the leaf's expiry. It may
carry the label it is stored under. Two identities are the same when their labels and chains
are; the key never takes part in comparisons or debugging output.
-/

namespace RevSync

/-- A private key and its certificate chain. -/
structure TlsIdentity where
  label : Option String := none
  /-- DER certificates, leaf first; never empty. -/
  certificates : List ByteArray
  /-- The private key in PKCS#8 DER. -/
  key : ByteArray
  expiration : Timestamp
  deriving Inhabited

namespace TlsIdentity

/-- The leaf certificate. -/
def leaf (i : TlsIdentity) : ByteArray := i.certificates.headD ByteArray.empty

/-- Same label and same chain. -/
def same (a b : TlsIdentity) : Bool :=
  a.label == b.label && a.certificates.map (·.toList) == b.certificates.map (·.toList)

/-- The identity's debugging text; the key is never shown. -/
def describe (i : TlsIdentity) : String :=
  let label := match i.label with
    | some l => "Some(" ++ Text.quote l ++ ")"
    | none => "None"
  "TlsIdentity \x7b label: " ++ label ++ ", chain_len: " ++ toString i.certificates.length ++
    ", expiration: " ++ i.expiration.describe ++ ", key: \"[REDACTED]\" \x7d"

end TlsIdentity

end RevSync
