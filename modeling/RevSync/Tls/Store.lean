import RevSync.Tls.Generate
import RevSync.Tls.Bundle
import RevSync.Host.Files

/-!
# Identity stores

A store keeps identities under labels, in memory or as one file per label in a directory:
`<lowercase hex of the label's UTF-8>.identity`, holding the CBOR map `{label, certs, key}`,
written to a `.tmp` file first and renamed over. Every operation on a directory store first
creates its `LOCK` file.

Labels are chosen by users, except the internal labels `docsync-anon-<key>` of the anonymous
identities generated for listeners: those are never listed, never returned with their label, and
regenerated once expired. Storing under a label in use fails; deleting a missing one does not.
-/

namespace RevSync

/-- The internal label prefix of anonymous identities. -/
def anonymousPrefix : String := "docsync-anon-"

/-- An identity as kept in a store. -/
structure StoredIdentity where
  label : String
  certs : List ByteArray
  key : ByteArray
  deriving Inhabited

/-- Where a store keeps its identities. -/
inductive IdentityStore where
  | memory (entries : TextMap StoredIdentity)
  | directory (path : String)
  deriving Inhabited

/-- A store with the files it lives in, the seed of the next generated key and the clock. -/
structure Keyring where
  store : IdentityStore
  files : Files
  seed : Nat
  now : Int

/-- Store operations: they can fail with a TLS error, keeping what they did before. -/
abbrev KeyringM := ExceptT TlsError (StateM Keyring)

namespace Keyring

/-- Runs a file operation. -/
def onFiles {α : Type} (f : Files → Except IoError (α × Files)) : KeyringM α := do
  match f (← get).files with
  | .ok (a, fs) =>
    modify fun k => { k with files := fs }
    pure a
  | .error e => throw (.io e)

/-- The file of a label in a directory. -/
def filePath (dir label : String) : String := Files.join dir (Hex.encode label.toUTF8 ++ ".identity")

/-- Takes the directory lock: creates the `LOCK` file. -/
def lock : KeyringM Unit := do
  match (← get).store with
  | .memory _ => pure ()
  | .directory dir => onFiles fun fs => (fs.touch (Files.join dir "LOCK")).map ((), ·)

/-- Reads a stored identity's CBOR. -/
def decodeStored (data : ByteArray) : Option StoredIdentity := do
  let (f, _) ← Cbor.Read.record data ["label", "certs", "key"]
    (fun (f : Option String × Option (List ByteArray) × Option ByteArray) i d p =>
      match i with
      | 0 => (Cbor.Read.string data p).map fun (v, q) => ((some v, f.2.1, f.2.2), q)
      | 1 => (Cbor.Read.array data (Bundle.byteVector data) d p).map fun (v, q) => ((f.1, some v, f.2.2), q)
      | _ => (Bundle.byteVector data d p).map fun (v, q) => ((f.1, f.2.1, some v), q))
    (none, none, none) Cbor.Read.maxNesting 0
  pure ⟨← f.1, ← f.2.1, ← f.2.2⟩

/-- The CBOR of a stored identity. -/
def encodeStored (s : StoredIdentity) : ByteArray :=
  Cbor.record [("label", Cbor.text s.label), ("certs", Cbor.array (s.certs.map Bundle.writeBytes)),
    ("key", Bundle.writeBytes s.key)]

/-- The identity under a label, without its label. -/
def load (label : String) : KeyringM (Option TlsIdentity) := do
  let stored ← match (← get).store with
    | .memory entries => pure (entries.get? label)
    | .directory dir =>
      let path := filePath dir label
      if !(← get).files.exists? path then pure none
      else
        let data ← onFiles fun fs => (fs.read path).map (·, fs)
        match decodeStored data with
        | some s => pure (some s)
        | none => throw (.codec "malformed stored identity")
  match stored with
  | none => pure none
  | some s =>
    match TlsIdentity.ofParts s.certs s.key with
    | .ok i => pure (some i)
    | .error e => throw e

/-- Stores an identity under a label. -/
def save (label : String) (identity : TlsIdentity) : KeyringM Unit := do
  let stored : StoredIdentity := ⟨label, identity.certificates, identity.key⟩
  match (← get).store with
  | .memory entries => modify fun k => { k with store := .memory (entries.insert label stored) }
  | .directory dir =>
    let path := filePath dir label
    let temp := Files.join dir (Hex.encode label.toUTF8 ++ ".tmp")
    onFiles fun fs => (fs.write temp (encodeStored stored)).map ((), ·)
    onFiles fun fs => (fs.rename temp path).map ((), ·)

/-- Removes the identity under a label: whether there was one. -/
def remove (label : String) : KeyringM Bool := do
  match (← get).store with
  | .memory entries =>
    modify fun k => { k with store := .memory (entries.erase label) }
    pure (entries.contains label)
  | .directory dir =>
    match (← get).files.removeFile (filePath dir label) with
    | .ok fs =>
      modify fun k => { k with files := fs }
      pure true
    | .error e => if e.kind == .notFound then pure false else throw (.io e)

/-- The label of a file name, if it is an identity file. -/
def labelOfFile (name : String) : Option String := do
  let stem ← name.dropSuffix? ".identity"
  let stem := stem.toString
  if stem.isEmpty || name.startsWith "." then none
  let bytes ← Hex.decode stem
  String.fromUTF8? bytes

/-- Every label, sorted. -/
def allLabels : KeyringM (List String) := do
  match (← get).store with
  | .memory entries => pure entries.keys
  | .directory dir =>
    let names ← onFiles fun fs => (fs.list dir).map (·, fs)
    pure ((names.filterMap labelOfFile).mergeSort fun a b => decide (a ≤ b))

/-- Draws the seed of a generated key. -/
def nextSeed : KeyringM Nat := do
  let k ← get
  set { k with seed := k.seed + 1 }
  pure k.seed

/-- Stores a new identity under a user label. -/
def insertNew (label : String) (identity : TlsIdentity) : KeyringM TlsIdentity := do
  if label.isEmpty || label.startsWith anonymousPrefix then
    throw (.invalidCertificate ("invalid identity label: " ++ Text.quote label))
  lock
  if (← load label).isSome then throw (.labelExists label)
  save label identity
  pure { identity with label := some label }

/-- Generates an identity, storing it under the label if one is given. -/
def createIdentity (usage : X509.KeyUsage) (subject : X509.Subject) (expiration : Option Int)
    (label : Option String) : KeyringM TlsIdentity := do
  let seed ← nextSeed
  let identity ← match TlsIdentity.generate usage subject expiration (← get).now seed with
    | .ok i => pure i
    | .error e => throw e
  match label with
  | some l => insertNew l identity
  | none => pure identity

/-- Imports an identity from PEM or a bundle and stores it under a label. -/
def importIdentity (data : ByteArray) (password : Option String) (label : String) :
    KeyringM TlsIdentity := do
  let identity ←
    if Bundle.isBundle data then
      match password with
      | none => throw (.decryption "a password is required for identity bundles")
      | some pw =>
        match Bundle.openWith data pw with
        | .ok i => pure i
        | .error e => throw e
    else
      match TlsIdentity.ofPem ((String.fromUTF8? data).getD "") with
      | .ok i => pure i
      | .error e => throw e
  insertNew label identity

/-- The identity under a label, with its label. -/
def identity (label : String) : KeyringM (Option TlsIdentity) := do
  lock
  pure ((← load label).map fun i => { i with label := some label })

/-- Seals the identity under a label with a password, the salt and nonce drawn from a seed. -/
def exportIdentity (label : String) (password : String) : KeyringM ByteArray := do
  match ← identity label with
  | none => throw (.identityNotFound label)
  | some i =>
    let seed := toString (← nextSeed)
    let salt := (sha256 ("bundle salt " ++ seed).toUTF8).extract 0 16
    let nonce := (sha256 ("bundle nonce " ++ seed).toUTF8).extract 0 12
    pure (Bundle.sealWith i password salt nonce)

/-- Deletes the identity under a label, if any. -/
def deleteIdentity (label : String) : KeyringM Unit := do
  lock
  let _ ← remove label

/-- The user labels. -/
def labels : KeyringM (List String) := do
  lock
  pure ((← allLabels).filter fun l => !l.startsWith anonymousPrefix)

/-- The anonymous identity for a key: the stored one while it has not expired, otherwise a new
server identity named `docsync-<key>`. -/
def anonymousIdentity (key : String) : KeyringM TlsIdentity := do
  let label := anonymousPrefix ++ key
  lock
  if let some existing ← load label then
    if !existing.expiredAt (← get).now then return existing
    let _ ← remove label
  let seed ← nextSeed
  let identity ← match TlsIdentity.generate .server { commonName := "docsync-" ++ key } none
      (← get).now seed with
    | .ok i => pure i
    | .error e => throw e
  save label identity
  pure identity

/-- Deletes every anonymous identity: how many there were. -/
def deleteAnonymousIdentities : KeyringM Nat := do
  lock
  let mut removed := 0
  for label in ← allLabels do
    if label.startsWith anonymousPrefix then
      if ← remove label then removed := removed + 1
  pure removed

end Keyring

/-- The store's debugging text, with a directory shown by `shown`. -/
def IdentityStore.describe (shown : String → String) : IdentityStore → String
  | .memory entries =>
    "IdentityStore \x7b backend: \"memory (" ++ toString entries.length ++ " identities)\" \x7d"
  | .directory dir => "IdentityStore \x7b backend: " ++ Text.quote (shown dir) ++ " \x7d"

end RevSync
