import RevSync.X509.Der
import RevSync.Time.Civil

/-!
# X.509 certificates

A certificate is the DER `SEQUENCE { tbsCertificate, signatureAlgorithm, signatureValue }`; the
to-be-signed part holds an optional explicit version (below 3), the serial number, the signature
algorithm, the issuer and subject names, the validity period, the subject's public key, optional
unique identifiers and, for version 3, the extensions, each extension identifier at most once.

Names are kept as their encodings, which is how they are compared, together with their attributes
in order. Times are `UTCTime` (`YYMMDDHHMMSSZ`, years from 1950 to 2049) or `GeneralizedTime`
(`YYYYMMDDHHMMSSZ`), read as Unix seconds. Bytes after the certificate are ignored.
-/

namespace RevSync

namespace X509

/-- Object identifiers, as their DER content bytes. -/
def oidCommonName : List UInt8 := [0x55, 0x04, 0x03]
def oidOrganization : List UInt8 := [0x55, 0x04, 0x0a]
def oidOrganizationalUnit : List UInt8 := [0x55, 0x04, 0x0b]
def oidCountry : List UInt8 := [0x55, 0x04, 0x06]
def oidLocality : List UInt8 := [0x55, 0x04, 0x07]
def oidEcPublicKey : List UInt8 := [0x2a, 0x86, 0x48, 0xce, 0x3d, 0x02, 0x01]
def oidP256 : List UInt8 := [0x2a, 0x86, 0x48, 0xce, 0x3d, 0x03, 0x01, 0x07]
def oidP384 : List UInt8 := [0x2b, 0x81, 0x04, 0x00, 0x22]
def oidEcdsaSha256 : List UInt8 := [0x2a, 0x86, 0x48, 0xce, 0x3d, 0x04, 0x03, 0x02]
def oidEcdsaSha384 : List UInt8 := [0x2a, 0x86, 0x48, 0xce, 0x3d, 0x04, 0x03, 0x03]
def oidEd25519 : List UInt8 := [0x2b, 0x65, 0x70]
def oidSubjectAltName : List UInt8 := [0x55, 0x1d, 0x11]
def oidKeyUsage : List UInt8 := [0x55, 0x1d, 0x0f]
def oidExtendedKeyUsage : List UInt8 := [0x55, 0x1d, 0x25]
def oidServerAuth : List UInt8 := [0x2b, 0x06, 0x01, 0x05, 0x05, 0x07, 0x03, 0x01]
def oidClientAuth : List UInt8 := [0x2b, 0x06, 0x01, 0x05, 0x05, 0x07, 0x03, 0x02]

/-- An algorithm identifier: the algorithm and its parameters, if any. -/
structure Algorithm where
  oid : List UInt8
  parameters : Option Der.Item

/-- One attribute of a name. -/
structure Attribute where
  oid : List UInt8
  value : Der.Item

/-- An extension. -/
structure Extension where
  oid : List UInt8
  critical : Bool
  value : ByteArray

/-- A parsed certificate. -/
structure Certificate where
  tbs : ByteArray
  version : Nat
  serial : ByteArray
  issuer : ByteArray
  subject : ByteArray
  subjectAttributes : List Attribute
  notBefore : Int
  notAfter : Int
  keyAlgorithm : Algorithm
  publicKey : ByteArray
  extensions : List Extension
  signatureAlgorithm : Algorithm
  signature : ByteArray

/-- An algorithm identifier. -/
def readAlgorithm (item : Der.Item) : Option Algorithm := do
  if item.tag != Der.tagSequence then none
  match ← Der.items item.content with
  | [oid] => if oid.tag == Der.tagOid then pure ⟨oid.content.toList, none⟩ else none
  | [oid, params] => if oid.tag == Der.tagOid then pure ⟨oid.content.toList, some params⟩ else none
  | _ => none

/-- The attributes of a name, in order. -/
def readName (item : Der.Item) : Option (List Attribute) := do
  if item.tag != Der.tagSequence then none
  let rdns ← Der.items item.content
  let sets ← rdns.mapM fun rdn => do
    if rdn.tag != Der.tagSet then none
    let pairs ← Der.items rdn.content
    if pairs.isEmpty then none
    pairs.mapM fun pair => do
      if pair.tag != Der.tagSequence then none
      match ← Der.items pair.content with
      | [oid, value] => if oid.tag == Der.tagOid then pure (⟨oid.content.toList, value⟩ : Attribute) else none
      | _ => none
  pure sets.flatten

/-- The value of `count` ASCII digits at `pos`. -/
def digits (text : List Char) (pos count : Nat) : Option Nat :=
  let part := (text.drop pos).take count
  if part.length != count then none
  else part.foldlM (fun (acc : Nat) (c : Char) =>
    if c.isDigit then some (acc * 10 + (c.toNat - '0'.toNat)) else none) 0

/-- The number of days in a month. -/
def daysIn (year : Int) (month : Nat) : Nat :=
  let leap := (year % 4 == 0 && year % 100 != 0) || year % 400 == 0
  match month with
  | 2 => if leap then 29 else 28
  | 4 | 6 | 9 | 11 => 30
  | _ => 31

/-- The Unix seconds of a time item. -/
def readTime (item : Der.Item) : Option Int := do
  let text := (String.fromUTF8? item.content).map (·.toList)
  let text ← text
  let (year, rest) ←
    if item.tag == Der.tagUtcTime then do
      if text.length != 13 then none
      let yy ← digits text 0 2
      pure ((if yy < 50 then 2000 + yy else 1900 + yy : Int), 2)
    else if item.tag == Der.tagGeneralizedTime then do
      if text.length != 15 then none
      pure (((← digits text 0 4 : Nat) : Int), 4)
    else none
  let month ← digits text rest 2
  let day ← digits text (rest + 2) 2
  let hour ← digits text (rest + 4) 2
  let minute ← digits text (rest + 6) 2
  let second ← digits text (rest + 8) 2
  if text.getLast? != some 'Z' then none
  if month < 1 || month > 12 || day < 1 || day > daysIn year month || hour > 23 || minute > 59 ||
    second > 59 then none
  pure (Timestamp.ofCivil ⟨year, month, day⟩ hour minute second).seconds

/-- An extension. -/
def readExtension (item : Der.Item) : Option Extension := do
  if item.tag != Der.tagSequence then none
  match ← Der.items item.content with
  | [oid, value] =>
    if oid.tag != Der.tagOid || value.tag != Der.tagOctetString then none
    pure ⟨oid.content.toList, false, value.content⟩
  | [oid, critical, value] =>
    if oid.tag != Der.tagOid || critical.tag != Der.tagBoolean || value.tag != Der.tagOctetString then none
    let flag ← match critical.content.toList with
      | [0] => some false
      | [0xff] => some true
      | _ => none
    pure ⟨oid.content.toList, flag, value.content⟩
  | _ => none

/-- Whether a list has no repeated element. -/
def distinct {α : Type} [BEq α] : List α → Bool
  | [] => true
  | x :: rest => !rest.contains x && distinct rest

/-- The fields of a to-be-signed part after the version. -/
def readTbsFields (version : Nat) (fields : List Der.Item) :
    Option (ByteArray × Algorithm × ByteArray × ByteArray × List Attribute × Int × Int × Algorithm ×
      ByteArray × List Extension) := do
  match fields with
  | serial :: sigAlg :: issuer :: validity :: subject :: spki :: optionalParts =>
    if serial.tag != Der.tagInteger || serial.content.size = 0 then none
    let sigAlg ← readAlgorithm sigAlg
    let _ ← readName issuer
    let attributes ← readName subject
    if validity.tag != Der.tagSequence then none
    let (notBefore, notAfter) ← match ← Der.items validity.content with
      | [a, b] => pure (← readTime a, ← readTime b)
      | _ => none
    if spki.tag != Der.tagSequence then none
    let (keyAlg, key) ← match ← Der.items spki.content with
      | [alg, key] => do
        if key.tag != Der.tagBitString then none
        pure (← readAlgorithm alg, ← Der.bitString key.content)
      | _ => none
    let extensions ← readOptional version optionalParts
    pure (serial.content, sigAlg, issuer.encoding, subject.encoding, attributes, notBefore, notAfter,
      keyAlg, key, extensions)
  | _ => none
where
  /-- The unique identifiers and extensions, in their order. -/
  readOptional (version : Nat) (parts : List Der.Item) : Option (List Extension) := do
    let parts := parts.dropWhile fun p => p.tag == 0x81 || p.tag == 0xa1
    let parts := parts.dropWhile fun p => p.tag == 0x82 || p.tag == 0xa2
    match parts with
    | [] => pure []
    | [ext] =>
      if ext.tag != 0xa3 || version < 2 then none
      let inner ← Der.single ext.content
      if inner.tag != Der.tagSequence then none
      let exts ← (← Der.items inner.content).mapM readExtension
      if distinct (exts.map (·.oid)) then pure exts else none
    | _ => none

/-- Parses the certificate at the start of some bytes. -/
def parse (der : ByteArray) : Option Certificate := do
  let (outer, _) ← Der.expect Der.tagSequence der 0
  match ← Der.items outer.content with
  | [tbs, sigAlg, sig] =>
    if tbs.tag != Der.tagSequence || sig.tag != Der.tagBitString then none
    let fields ← Der.items tbs.content
    let (version, rest) ← match fields with
      | first :: rest =>
        if first.tag == 0xa0 then do
          let v ← Der.single first.content
          if v.tag != Der.tagInteger then none
          let n ← Der.natural v.content
          if n ≥ 3 then none
          pure (n, rest)
        else pure (0, fields)
      | [] => none
    let (serial, innerAlg, issuer, subject, attributes, notBefore, notAfter, keyAlg, key, exts) ←
      readTbsFields version rest
    let _ := innerAlg
    pure {
      tbs := tbs.encoding, version, serial, issuer, subject, subjectAttributes := attributes,
      notBefore, notAfter, keyAlgorithm := keyAlg, publicKey := key, extensions := exts,
      signatureAlgorithm := ← readAlgorithm sigAlg, signature := ← Der.bitString sig.content }
  | _ => none

/-- String types whose bytes read as text in a name. -/
def textTags : List UInt8 := [0x12, 0x1a, 0x13, 0x1b, 0x07, 0x19, 0x14, 0x15, 0x0c, 0x16]

/-- The subject's first common name, when it is a text string in UTF-8. -/
def Certificate.commonName (c : Certificate) : Option String := do
  let attr ← c.subjectAttributes.find? (·.oid == oidCommonName)
  if textTags.contains attr.value.tag then String.fromUTF8? attr.value.content else none

end X509

end RevSync
