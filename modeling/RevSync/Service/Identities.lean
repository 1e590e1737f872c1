import RevSync.Service.Databases
import RevSync.Service.Certificates

/-!
# Identity store steps

Scripts open identity stores under names (in memory, or in the directory `ids-<name>`), create,
import, export, read and delete identities in them, and ask for anonymous identities.

Identities are answered as summaries: label, chain length, common name, leaf number, expiration
and whether the leaf is self-signed. Leaf numbers count the distinct leaf certificates of a
script in the order they are first answered. Certificates generated with the default lifetime
have no fixed expiration, so theirs is written `null`; the UUIDs of the script's databases in
labels and common names are written `$uuid(<key>)`.
-/

namespace RevSync

namespace Service

open World

/-- How a summary writes the expiration. -/
inductive ExpiryView where
  /-- In seconds, or `null` for a certificate generated with the default lifetime. -/
  | seconds
  /-- As `$time` when it falls in the window of masked dates. -/
  | masked
  /-- Always `null`. -/
  | hidden
  deriving DecidableEq

/-- Runs an operation on identity store `i`. -/
def onKeyring {α : Type} (i : Nat) (m : KeyringM α) : Step (Except TlsError α) := do
  let w ← get
  let k : Keyring :=
    { store := w.keyrings.getD i default, files := w.host.files, seed := w.seed, now := clockNow }
  let (r, k) := m.run.run k
  set { w with keyrings := w.keyrings.modify i fun _ => k.store,
               host := { w.host with files := k.files }, seed := k.seed }
  pure r

/-- The number of a leaf certificate, numbering it if it is new. -/
def leafNumber (leaf : ByteArray) : Step Nat := do
  let w ← get
  match w.leaves.findIdx? (·.data == leaf.data) with
  | some i => pure (i + 1)
  | none =>
    set { w with leaves := w.leaves.push leaf }
    pure (w.leaves.size + 1)

/-- Records that a leaf certificate was generated with the default lifetime. -/
def markGenerated (leaf : ByteArray) : Step Unit :=
  modify fun w => { w with generated := leaf :: w.generated }

/-- Text with the UUIDs of the script's databases written `$uuid(<key>)`. -/
def maskUuids (s : String) : Step String := do
  let w ← get
  pure (w.databases.foldl (fun acc (key, h) =>
    acc.replace ((w.host.databases.getD h default).state.uuid.toText) ("$uuid(" ++ key ++ ")")) s)

/-- Whether a moment falls in the window of masked dates. -/
def nearClock (seconds : Int) : Bool :=
  let year := (Timestamp.date { seconds }).year
  clockYear - 1 ≤ year && year ≤ clockYear + 6

/-- An identity's summary. -/
def summaryJson (i : TlsIdentity) (view : ExpiryView) : Step Json := do
  let leaf ← leafNumber i.leaf
  let generated := (← get).generated.any (·.data == i.leaf.data)
  let expiration := match view with
    | .hidden => Json.null
    | .seconds => if generated then .null else Json.ofInt i.expiration.seconds
    | .masked =>
      if generated then .null
      else if nearClock i.expiration.seconds then .str "$time"
      else Json.ofInt i.expiration.seconds
  let label ← match i.label with
    | some l => Json.str <$> maskUuids l
    | none => pure .null
  let commonName ← match i.commonName with
    | some n => Json.str <$> maskUuids n
    | none => pure .null
  pure (Json.object [("label", label), ("chain_len", Json.ofNat i.certificates.length),
    ("common_name", commonName), ("leaf", Json.ofNat leaf), ("expiration", expiration),
    ("self_signed", .bool i.selfSigned)])

/-- The answer of a store operation. -/
def keyringResult {α : Type} (r : Except TlsError α) (f : α → Step Json) : Step Json :=
  match r with
  | .ok a => f a
  | .error e => pure (tlsErrorJson e)

/-- The identity store named by a field. -/
def keyringAt (s : Json) : Step Nat := do
  match (← get).keyringNames.get? (← reading (text s "store")) with
  | some i => pure i
  | none => reading unreadable

/-- Adds an identity store; its number. -/
def addKeyring (store : IdentityStore) : Step Nat := do
  let w ← get
  set { w with keyrings := w.keyrings.push store }
  pure w.keyrings.size

/-- Opens an identity store under a name: a fresh one in memory, or the directory
`ids-<name>`, created if missing. -/
def idStoreStep (s : Json) : Step Json := do
  let name ← reading (text s "store")
  let persistent ← reading (flag s "persistent" false)
  let mut store := IdentityStore.memory []
  if persistent then
    let dir := "ids-" ++ name
    match (← get).host.files.createDirAll dir with
    | .ok fs =>
      modify fun w => { w with host := { w.host with files := fs } }
      store := .directory dir
    | .error e => return tlsErrorJson (.io e)
  let i ← addKeyring store
  modify fun w => { w with keyringNames := w.keyringNames.insert name i }
  pure okJson

/-- Reads the use of a generated certificate. -/
def readUsage (s : Json) : Read X509.KeyUsage := do
  match ← text? s "usage" with
  | none | some "server" => pure .server
  | some "client" => pure .client
  | some _ => unreadable

/-- Generates an identity, stored under the label if one is given. -/
def idCreateStep (s : Json) : Step Json := do
  let i ← keyringAt s
  let subject : X509.Subject :=
    { commonName := ← reading (text s "cn"), organization := ← reading (text? s "organization"),
      unit := ← reading (text? s "unit"), country := ← reading (text? s "country"),
      locality := ← reading (text? s "locality") }
  let usage ← reading (readUsage s)
  let expiration ← reading (optional s "expiration" asDateTime)
  let label ← reading (text? s "label")
  keyringResult (← onKeyring i (Keyring.createIdentity usage subject expiration label)) fun ident => do
    if expiration.isNone then markGenerated ident.leaf
    summaryJson ident .seconds

/-- Imports an identity from PEM text or a bundle given in hex. -/
def idImportStep (s : Json) : Step Json := do
  let i ← keyringAt s
  let data ← match ← reading (text? s "pem") with
    | some pem => pure pem.toUTF8
    | none => reading (asHexBytes (← reading (field s "data")))
  let password ← reading (text? s "password")
  let label ← reading (text s "label")
  keyringResult (← onKeyring i (Keyring.importIdentity data password label)) (summaryJson · .seconds)

/-- Exports an identity and opens the bundle again. -/
def idExportStep (s : Json) : Step Json := do
  let i ← keyringAt s
  let label ← reading (text s "label")
  let password ← reading (text s "password")
  let reopen := (← reading (text? s "reopen_password")).getD password
  keyringResult (← onKeyring i (Keyring.exportIdentity label password)) fun data => do
    let reopened ← match Bundle.openWith data reopen with
      | .ok ident => summaryJson ident .seconds
      | .error e => pure (tlsErrorJson e)
    pure (Json.object [("is_bundle", .bool (Bundle.isBundle data)), ("reopened", reopened)])

/-- The identity under a label, as debugging text, compared with another if asked. -/
def idDebugStep (s : Json) : Step Json := do
  let i ← keyringAt s
  let label ← reading (text s "label")
  let other ← reading (text? s "other")
  keyringResult (← onKeyring i (Keyring.identity label)) fun
    | none => pure .null
    | some ident => do
      let debug ← maskUuids (maskNearDates ident.describe)
      match other with
      | none => pure (Json.object [("debug", .str debug)])
      | some o =>
        keyringResult (← onKeyring i (Keyring.identity o)) fun found =>
          pure (Json.object [("debug", .str debug),
            ("equal", Json.ofOption (fun (x : TlsIdentity) => .bool (ident.same x)) found)])

/-- Opens a bundle file with a password. -/
def readBundleStep (s : Json) : Step Json := do
  let path ← reading (text s "path")
  let password ← reading (text s "password")
  match (← get).host.files.read path with
  | .error _ => pure .null
  | .ok data =>
    let identity ← match Bundle.openWith data password with
      | .ok ident => summaryJson ident .masked
      | .error e => pure (tlsErrorJson e)
    pure (Json.object [("is_bundle", .bool (Bundle.isBundle data)), ("identity", identity)])

/-- The identity store steps. -/
def identityStep (op : String) (s : Json) : Option (Step Json) :=
  match op with
  | "id_store" => some (idStoreStep s)
  | "id_create" => some (idCreateStep s)
  | "id_import" => some (idImportStep s)
  | "id_export" => some (idExportStep s)
  | "id_get" => some do
    let i ← keyringAt s
    let label ← reading (text s "label")
    keyringResult (← onKeyring i (Keyring.identity label)) fun
      | some ident => summaryJson ident .seconds
      | none => pure .null
  | "id_delete" => some do
    let i ← keyringAt s
    let label ← reading (text s "label")
    keyringResult (← onKeyring i (Keyring.deleteIdentity label)) fun _ => pure okJson
  | "id_labels" => some do
    let i ← keyringAt s
    keyringResult (← onKeyring i Keyring.labels) fun labels => do
      pure (.arr ((← labels.mapM maskUuids).map .str))
  | "id_anon" => some do
    let i ← keyringAt s
    let key ← reading (text s "key")
    keyringResult (← onKeyring i (Keyring.anonymousIdentity key)) (summaryJson · .hidden)
  | "id_delete_anon" => some do
    let i ← keyringAt s
    keyringResult (← onKeyring i Keyring.deleteAnonymousIdentities) fun n => pure (Json.ofNat n)
  | "store_debug" => some do
    let i ← keyringAt s
    pure (.str (((← get).keyrings.getD i default).describe shownPath))
  | "id_debug" => some (idDebugStep s)
  | "read_bundle" => some (readBundleStep s)
  | _ => none

end Service

end RevSync
