import RevSync.Service.Identities
import RevSync.Fixtures.Generate
import RevSync.Fixtures.Polling

/-!
# Test fixture steps

Scripts use the helpers that tests are written with: databases in memory or in a temporary
directory of their own, documents saved in bulk or one field at a time, the contents of a
database, identities generated on the spot, waits for background state and generated documents.

A helper that fails stops the test that called it; such a failure is answered
`{"panic": <message>}`, the message naming what failed and the error's debugging text.
-/

namespace RevSync

namespace Service

open World

/-- The answer of a helper that failed. -/
def panicJson (message : String) : Json := Json.object [("panic", .str message)]

/-- A failed helper's message: what failed and the store error. -/
def storePanic (what : String) (e : StoreError) : Json := panicJson (what ++ ": " ++ e.debugText)

/-- Makes a temporary directory beside the script's directory; its path. -/
def scratchDir : Step String := do
  let w ← get
  set { w with scratchDirs := w.scratchDirs + 1 }
  let dir := "../.tmp" ++ toString (w.scratchDirs + 1)
  let _ ← onFiles (·.createDirAll dir)
  pure dir

/-- A test database in memory, or opened in a directory of its own, under a key. -/
def testDatabaseStep (s : Json) : Step Json := do
  let key ← reading (text s "db")
  let name ← reading (text s "name")
  let file ← reading (flag s "file" false)
  let opened ← if file then do
      let dir := Files.join (← scratchDir) name
      pure ((fun h => (h, true)) <$> (← (onHost (Host.openDir dir dir {})).run))
    else do
      pure ((fun h => (h, false)) <$> (← (onHost (Host.openInMemory name)).run))
  match opened with
  | .error e =>
    pure (storePanic (if file then "Failed to open file database" else
      "Failed to open in-memory database") e)
  | .ok (h, hasPath) =>
    bind key h
    let d ← database h
    let files := (← get).host.files
    let pathExists := match d.location with
      | some dir => files.exists? dir
      | none => false
    pure (Json.object [("name", .str d.name), ("has_path", .bool hasPath),
      ("path_exists", .bool pathExists), ("document_count", Json.ofNat d.state.documentCount)])

/-- Saves documents `<prefix>-<i>` with an `index` field, for `i` below `count`. -/
def populateStep (s : Json) : Step Json := do
  let h ← handleAt s "db"
  let pre ← reading (text s "prefix")
  let count ← reading (natUpTo s "count" 10000)
  let mut ids : Array Json := #[]
  for i in List.range count do
    let id := pre ++ "-" ++ toString i
    match ← (onHost (Host.save h (Document.withProperties id [("index", Json.ofNat i)])
      .lastWriteWins)).run with
    | .ok _ => ids := ids.push (.str id)
    | .error e => return storePanic "Failed to save document" e
  pure (.arr ids.toList)

/-- Sets one field of a document, creating the document if it is missing. -/
def saveFieldStep (s : Json) : Step Json := do
  let h ← handleAt s "db"
  let id ← reading (text s "id")
  let key ← reading (text s "key")
  let value ← reading (need (s.get? "value"))
  match ← (onHost (Host.get? h id)).run with
  | .error e => pure (storePanic "Failed to read document" e)
  | .ok existing =>
    let doc := (existing.getD (Document.withProperties id [])).set key value
    match ← (onHost (Host.save h doc .lastWriteWins)).run with
    | .ok d => pure (documentJson d)
    | .error e => pure (storePanic "Failed to save document" e)

/-- The properties of every live document, by id. -/
def contentsStep (s : Json) : Step Json := do
  let h ← handleAt s "db"
  match ← (onHost (Host.documentIds h)).run with
  | .error e => pure (storePanic "Failed to list documents" e)
  | .ok ids =>
    let mut fields : Array (String × Json) := #[]
    for id in ids do
      match ← (onHost (Host.get? h id)).run with
      | .ok (some d) => fields := fields.push (id, .obj d.properties)
      | .ok none => pure ()
      | .error e => return storePanic "Failed to read document" e
    pure (.obj fields.toList)

/-- The temporary directory `path_in` joins names to. -/
def temporaryDir : String := "/tmp/.tmp"

/-- The components of a path as a path library reads them: a leading `/` as the root, then the
names, without empty ones and `.`. -/
def pathComponents (p : String) : List String :=
  (if p.startsWith "/" then ["/"] else []) ++ (p.splitOn "/").filter fun c => c != "" && c != "."

/-- Where a name lands in the temporary directory: its last name, and whether its parent is the
directory itself. -/
def temporaryPathStep (s : Json) : Step Json := do
  let name ← reading (text s "name")
  let full := if name.startsWith "/" then name else temporaryDir ++ "/" ++ name
  let cs := pathComponents full
  let fileName := match cs.getLast? with
    | some c => if c == ".." || c == "/" then Json.null else .str c
    | none => .null
  pure (Json.object [("file_name", fileName),
    ("in_dir", .bool (cs.dropLast == pathComponents temporaryDir)), ("dir_exists", .bool true)])

/-- An identity generated for a server or a client, not stored. -/
def testIdentityStep (s : Json) : Step Json := do
  let cn ← reading (text s "cn")
  let client ← reading (flag s "client" false)
  let w ← get
  set { w with seed := w.seed + 1 }
  match TlsIdentity.generate (if client then .client else .server) { commonName := cn } none clockNow
      w.seed with
  | .ok ident =>
    markGenerated ident.leaf
    summaryJson ident .hidden
  | .error e =>
    pure (panicJson ("Failed to generate " ++ (if client then "client" else "server") ++
      " identity: " ++ e.debugText))

/-- A wait for a condition that holds from poll `after` on (never without `after`). -/
def waitStep (s : Json) : Step Json := do
  let kind ← reading (text s "kind")
  let timeout ← reading (natUpTo s "timeout_ms" 2000)
  let after ← reading (nat? s "after")
  let outcome ← match kind with
    | "until" => pure ((fun () => Json.str "ok") <$> Fixtures.waitUntil timeout after)
    | "for" => pure (Fixtures.waitFor timeout after (Json.ofNat 7))
    | "within" => pure (Fixtures.within timeout after (Json.str "done"))
    | "check_for" => pure ((fun () => Json.str "ok") <$> Fixtures.checkFor timeout after)
    | _ => reading unreadable
  match outcome with
  | .ok v => pure (Json.object [("ok", v)])
  | .error m => pure (panicJson m)

/-- The seed of generated samples. -/
def sampleSeed : UInt64 := 0x5eed

/-- Draws generated documents and reports the properties every draw has. -/
def generateStep (s : Json) : Step Json := do
  let samples ← reading (natUpTo s "samples" 50)
  let max := Nat.min 32 (Nat.max 1 ((← reading (nat? s "max")).getD 8))
  let r := Fixtures.Sample.check sampleSeed samples max
  pure (Json.object [("ids_valid", .bool r.idsValid), ("values_valid", .bool r.valuesValid),
    ("saved", .bool r.saved), ("within_max", .bool r.withinMax)])

/-- The fixture steps. -/
def fixtureStep (op : String) (s : Json) : Option (Step Json) :=
  match op with
  | "tk_database" => some (testDatabaseStep s)
  | "tk_populate" => some (populateStep s)
  | "tk_save_field" => some (saveFieldStep s)
  | "tk_contents" => some (contentsStep s)
  | "tk_temp" => some (temporaryPathStep s)
  | "tk_identity" => some (testIdentityStep s)
  | "tk_wait" => some (waitStep s)
  | "tk_generate" => some (generateStep s)
  | _ => none

end Service

end RevSync
