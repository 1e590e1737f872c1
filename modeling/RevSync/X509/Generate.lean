import RevSync.X509.Signature

/-!
# Generating self-signed certificates

A generated certificate is a version 3 certificate for the host name `localhost`, signed with
ECDSA P-256 and SHA-256 by the key it certifies. Its subject (and issuer) lists the common name,
then the organization, organizational unit, country and locality that are given, one attribute
per relative name, as UTF-8 strings except the country, a printable string. Its extensions are
the subject alternative name, the key usages digital signature and key encipherment (critical),
and the extended key usage for a server or a client. Times before 2050 are `UTCTime`, later
ones `GeneralizedTime`.

The private key is written as PKCS#8 with the SEC1 key inside, including the public point.
-/

namespace RevSync

namespace X509

/-- What a generated certificate is for. -/
inductive KeyUsage where
  | server
  | client
  deriving DecidableEq, Repr, Inhabited

/-- The subject attributes of a generated certificate. -/
structure Subject where
  commonName : String
  organization : Option String := none
  unit : Option String := none
  country : Option String := none
  locality : Option String := none
  deriving Inhabited

/-- An object identifier item. -/
def oidItem (oid : List UInt8) : ByteArray := Der.encode Der.tagOid ⟨oid.toArray⟩

/-- One attribute as a relative name. -/
def attributeItem (oid : List UInt8) (tag : UInt8) (value : String) : ByteArray :=
  Der.set [Der.sequence [oidItem oid, Der.encode tag value.toUTF8]]

/-- The encoded name of a subject. -/
def Subject.encode (s : Subject) : ByteArray :=
  let optional (oid : List UInt8) (tag : UInt8) : Option String → List ByteArray
    | some v => [attributeItem oid tag v]
    | none => []
  Der.sequence ([attributeItem oidCommonName Der.tagUtf8String s.commonName] ++
    optional oidOrganization Der.tagUtf8String s.organization ++
    optional oidOrganizationalUnit Der.tagUtf8String s.unit ++
    optional oidCountry Der.tagPrintableString s.country ++
    optional oidLocality Der.tagUtf8String s.locality)

/-- Two decimal digits. -/
def twoDigits (n : Nat) : String := if n < 10 then "0" ++ toString n else toString (n % 100)

/-- A time item. -/
def timeItem (seconds : Int) : ByteArray :=
  let t : Timestamp := { seconds }
  let d := t.date
  let s := t.secondOfDay
  let clock := twoDigits d.month ++ twoDigits d.day ++ twoDigits (s / 3600) ++
    twoDigits (s / 60 % 60) ++ twoDigits (s % 60) ++ "Z"
  if d.year < 2050 then Der.encode Der.tagUtcTime (twoDigits (d.year % 100).toNat ++ clock).toUTF8
  else Der.encode Der.tagGeneralizedTime (toString d.year ++ clock).toUTF8

/-- The uncompressed encoding of a public point. -/
def pointBytes (x y : Nat) : ByteArray := ByteArray.mk #[0x04] ++ bytesOfNatBE x 32 ++ bytesOfNatBE y 32

/-- The P-256 key algorithm identifier. -/
def p256Algorithm : ByteArray := Der.sequence [oidItem oidEcPublicKey, oidItem oidP256]

/-- The extensions of a generated certificate. -/
def extensionsFor (usage : KeyUsage) : ByteArray :=
  let san := Der.sequence [oidItem oidSubjectAltName,
    Der.encode Der.tagOctetString (Der.sequence [Der.encode 0x82 "localhost".toUTF8])]
  let keyUsage := Der.sequence [oidItem oidKeyUsage, Der.encode Der.tagBoolean ⟨#[0xff]⟩,
    Der.encode Der.tagOctetString (Der.encode Der.tagBitString ⟨#[0x05, 0xa0]⟩)]
  let purpose := match usage with
    | .server => oidServerAuth
    | .client => oidClientAuth
  let extended := Der.sequence [oidItem oidExtendedKeyUsage,
    Der.encode Der.tagOctetString (Der.sequence [oidItem purpose])]
  Der.encode 0xa3 (Der.sequence [san, keyUsage, extended])

/-- The ECDSA-with-SHA-256 algorithm identifier. -/
def ecdsaSha256Algorithm : ByteArray := Der.sequence [oidItem oidEcdsaSha256]

/-- A generated key pair and certificate: the certificate's DER and the key's PKCS#8 DER, or
`none` when the secret or nonce is out of range. -/
def generate (subject : Subject) (usage : KeyUsage) (notBefore notAfter : Int) (secret nonce : Nat) :
    Option (ByteArray × ByteArray) := do
  if secret = 0 || secret ≥ P256.n then none
  let (qx, qy) ← P256.publicPoint secret
  let point := pointBytes qx qy
  let serial := natOfBytesBE ((sha256 point).extract 0 20) % Nat.pow 2 159 + 1
  let name := subject.encode
  let tbs := Der.sequence [Der.encode 0xa0 (Der.integer 2), Der.integer serial, ecdsaSha256Algorithm,
    name, Der.sequence [timeItem notBefore, timeItem notAfter], name,
    Der.sequence [p256Algorithm, Der.bits point], extensionsFor usage]
  let (r, s) ← P256.sign secret nonce (natOfBytesBE (sha256 tbs))
  let certificate := Der.sequence [tbs, ecdsaSha256Algorithm,
    Der.bits (Der.sequence [Der.integer r, Der.integer s])]
  let key := Der.sequence [Der.integer 0, p256Algorithm,
    Der.encode Der.tagOctetString (Der.sequence [Der.integer 1,
      Der.encode Der.tagOctetString (bytesOfNatBE secret 32), Der.encode 0xa1 (Der.bits point)])]
  pure (certificate, key)

end X509

end RevSync
