import RevSync.Tls.Load
import RevSync.Crypto.Hmac
import RevSync.Crypto.Gcm
import RevSync.Cbor.Read
import RevSync.Cbor.Write

/-!
# Identity bundles

A bundle is an identity sealed under a password: the magic `DSID` followed by the CBOR map
`{version: 1, salt, sealed}`, where `sealed` is a 12-byte nonce followed by the AES-256-GCM
encryption of the CBOR map `{certs, key}`. The key is HKDF-SHA256 of the password with the salt,
expanded with the info `docsync-identity-bundle-v1`. Byte strings are written as arrays of
integers and read either as such arrays or as CBOR byte strings.
-/

namespace RevSync

namespace Bundle

/-- The bundle magic. -/
def magic : ByteArray := "DSID".toUTF8

/-- The bundle format version. -/
def version : Nat := 1

/-- The HKDF info string. -/
def info : ByteArray := "docsync-identity-bundle-v1".toUTF8

/-- Whether data starts like a bundle. -/
def isBundle (data : ByteArray) : Bool :=
  data.size ≥ 4 && (data.extract 0 4).data == magic.data

/-- The encryption key of a password and salt. -/
def deriveKey (password : String) (salt : ByteArray) : ByteArray :=
  (Hkdf.expand (Hkdf.extract (some salt) password.toUTF8) info 32).getD ByteArray.empty

section
variable (b : ByteArray)

/-- A byte vector: an array of integers below 256 or a byte string, one nesting level deeper. -/
def byteVector (depth pos : Nat) : Option (ByteArray × Nat) := do
  let (h, p) ← Cbor.Read.untagged b pos
  match h, depth with
  | .array len, _ + 1 => do
    let (xs, q) ← Cbor.Read.elements b (Cbor.Read.natUpTo b 255) len p
    pure (⟨xs.toArray.map (·.toUInt8)⟩, q)
  | .bytes len, _ => do
    let (ps, q) ← Cbor.Read.pieces b 2 len p
    pure (ps.foldl (· ++ ·) ByteArray.empty, q)
  | _, _ => none

/-- The fields of a bundle read so far. -/
structure Fields where
  version : Option Nat := none
  salt : Option ByteArray := none
  sealed : Option ByteArray := none

/-- Reads the bundle map. -/
def readBundle (pos : Nat) : Option (Nat × ByteArray × ByteArray) := do
  let (f, _) ← Cbor.Read.record b ["version", "salt", "sealed"] (fun (f : Fields) i d p =>
    match i with
    | 0 => (Cbor.Read.natUpTo b 255 p).map fun (v, q) => ({ f with version := some v }, q)
    | 1 => (byteVector b d p).map fun (v, q) => ({ f with salt := some v }, q)
    | _ => (byteVector b d p).map fun (v, q) => ({ f with sealed := some v }, q)) {}
    Cbor.Read.maxNesting pos
  pure (← f.version, ← f.salt, ← f.sealed)

/-- The fields of a payload read so far. -/
structure Payload where
  certs : Option (List ByteArray) := none
  key : Option ByteArray := none

/-- Reads the payload map. -/
def readPayload (pos : Nat) : Option (List ByteArray × ByteArray) := do
  let (f, _) ← Cbor.Read.record b ["certs", "key"] (fun (f : Payload) i d p =>
    match i with
    | 0 => (Cbor.Read.array b (byteVector b) d p).map fun (v, q) => ({ f with certs := some v }, q)
    | _ => (byteVector b d p).map fun (v, q) => ({ f with key := some v }, q)) {}
    Cbor.Read.maxNesting pos
  pure (← f.certs, ← f.key)

end

/-- Opens a bundle with a password. -/
def openWith (data : ByteArray) (password : String) : Except TlsError TlsIdentity := do
  if !isBundle data then throw (.codec "not an identity bundle")
  let body := data.extract 4 data.size
  let (v, salt, sealed) ← match readBundle body 0 with
    | some r => pure r
    | none => throw (.codec "malformed bundle")
  if v != version then throw (.codec ("unsupported bundle version " ++ toString v))
  if sealed.size < 12 then throw (.decryption "bundle too short")
  let key := deriveKey password salt
  let plain ← match Gcm.decrypt key (sealed.extract 0 12) (sealed.extract 12 sealed.size) with
    | some p => pure p
    | none => throw (.decryption "wrong password or corrupt bundle")
  let (certs, privateKey) ← match readPayload plain 0 with
    | some r => pure r
    | none => throw (.codec "malformed payload")
  TlsIdentity.ofParts certs privateKey

/-- Bytes written as an array of integers. -/
def writeBytes (data : ByteArray) : ByteArray := Cbor.array (data.toList.map fun x => Cbor.unsigned x.toNat)

/-- Seals an identity under a password with the given 16-byte salt and 12-byte nonce. -/
def sealWith (identity : TlsIdentity) (password : String) (salt nonce : ByteArray) : ByteArray :=
  let payload := Cbor.record [("certs", Cbor.array (identity.certificates.map writeBytes)),
    ("key", writeBytes identity.key)]
  let sealed := nonce ++ Gcm.encrypt (deriveKey password salt) nonce payload
  magic ++ Cbor.record [("version", Cbor.unsigned version), ("salt", writeBytes salt),
    ("sealed", writeBytes sealed)]

end Bundle

end RevSync
