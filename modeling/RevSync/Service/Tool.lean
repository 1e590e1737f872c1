import RevSync.Service.Listeners
import RevSync.Tool.Commands
import RevSync.CommandLine.Read

/-!
# Running the command-line tool

A run of the tool reads its words, then performs the command they name on the script's world:
it opens databases and identity stores in the script's files, starts a listener, or checks a
replication's settings. What it prints, and its exit code, are its answer.

`listen` and `replicate` run until interrupted. A run is interrupted once a given number of
lines are printed; it then prints its closing lines and succeeds. A run that is never interrupted
is killed when its time runs out, and has no exit code.

Errors end a run with code 1 and their debugging text; a command line that cannot be read ends
it with code 2, and a panic with code 101.
-/

namespace RevSync

namespace Service

open CommandLine

/-- What one run of the tool printed and how it ended. -/
structure ToolRun where
  /-- The exit code; none when the run was killed. -/
  code : Option Nat
  stdout : List String := []
  stderr : List String := []
  timedOut : Bool := false
  deriving Inhabited

/-- Why a command ends before its work is done. -/
inductive Abort where
  /-- An error reaches the top of the program; it is shown by its debugging text. -/
  | error (debug : String)
  /-- The program panics with a message. -/
  | panic (message : String)

/-- The commands' computations: steps that may abort. -/
abbrev ToolM := ExceptT Abort Step

/-- Aborts with an error's debugging text. -/
def abortWith {α : Type} (debug : String) : ToolM α := throw (.error debug)

/-- The lines of a printed text. -/
def printedLines (text : String) : List String :=
  match (text.splitOn "\n").reverse with
  | "" :: rest => rest.reverse
  | all => all.reverse

/-- The file a path argument names. The script directory is the working directory, so a path
under `$DIR` and a relative path both name a file of the script. -/
def filePath (arg : String) : String :=
  match arg.dropPrefix? "$DIR" with
  | some rest => Files.normalize rest.toString
  | none => Files.normalize arg

/-- Opens the database in a directory, creating it if missing. -/
def openDatabase (path : String) : ToolM Nat := do
  match ← (World.onHost (Host.openDir (filePath path) path {})).run with
  | .ok h => pure h
  | .error e => abortWith e.debugText

/-- Opens the identity store in a directory, creating the directory if missing. -/
def openStore (dir : String) : ToolM IdentityStore := do
  let path := filePath dir
  match (← get).host.files.createDirAll path with
  | .ok fs =>
    modify fun w => { w with host := { w.host with files := fs } }
    pure (.directory path)
  | .error e => abortWith (TlsError.io e).debugText

/-- Runs an operation on an identity store. -/
def onStore {α : Type} (store : IdentityStore) (m : KeyringM α) : ToolM α := do
  let w ← get
  let k : Keyring := { store, files := w.host.files, seed := w.seed, now := clockNow }
  let (r, k) := m.run.run k
  set { w with host := { w.host with files := k.files }, seed := k.seed }
  match r with
  | .ok a => pure a
  | .error e => abortWith e.debugText

/-- The identity under a label, or the error naming the store. -/
def requireIdentity (store : IdentityStore) (dir label : String) : ToolM TlsIdentity := do
  match ← onStore store (Keyring.identity label) with
  | some i => pure i
  | none => abortWith (Text.quote ("No identity labelled " ++ Text.quote label ++ " in " ++ dir))

/-- The expiration `days` days after the clock. The day count must fit in 64 bits of seconds,
and the moment in the years -9999 to 9999; otherwise the program panics. -/
def expiryAfterDays (days : Int) : Except String Int :=
  let seconds := days * 86400
  if seconds < int64Min || seconds > int64Max then
    .error "overflow constructing `time::SignedDuration`"
  else
    let t := clockNow + seconds
    let year := (Timestamp.date { seconds := t }).year
    if year < -9999 || year > 9999 then .error "resulting value is out of range" else .ok t

/-- Pads text with spaces to a width, counted in characters. -/
def padRight (width : Nat) (s : String) : String :=
  s ++ String.ofList (List.replicate (width - s.length) ' ')

/-- The stored identities with their labels, sorted by label. -/
def storedIdentities (store : IdentityStore) : ToolM (List (String × TlsIdentity)) := do
  let labels ← onStore store Keyring.labels
  let mut rows := []
  for l in labels do
    if let some i ← onStore store (Keyring.identity l) then rows := rows ++ [(l, i)]
  pure rows

/-- The listing of identities: one line each, or pretty JSON. -/
def identityListing (rows : List (String × TlsIdentity)) (format : String) : List String :=
  if format == "json" then
    printedLines (Json.pretty (.arr (rows.map fun (l, i) =>
      Json.obj [("label", .str l),
        ("common_name", match i.commonName with
          | some n => .str n
          | none => .null),
        ("expires", .str i.expiration.rfc3339), ("expired", .bool (i.expiredAt clockNow)),
        ("chain_length", Json.ofNat i.certificates.length)])))
  else if rows.isEmpty then ["No identities"]
  else rows.map fun (l, i) =>
    padRight 24 l ++ " " ++ padRight 32 (i.commonName.getD "-") ++ " " ++ i.expiration.rfc3339 ++
      (if i.expiredAt clockNow then " (expired)" else "")

/-- Runs an `identity` subcommand; what it prints. -/
def identityRun (inv : Invocation) (action : String) : ToolM (List String) := do
  let store ← openStore ((inv.value? "store").getD "")
  let label := (inv.value? "label").getD ""
  match action with
  | "create" =>
    let expiration ← match inv.value? "days" with
      | none => pure none
      | some d =>
        match expiryAfterDays (d.toInt?.getD 0) with
        | .ok t => pure (some t)
        | .error m => throw (.panic m)
    let subject : X509.Subject :=
      { commonName := (inv.value? "common_name").getD "", organization := inv.value? "organization" }
    let usage := if inv.flag "client" then X509.KeyUsage.client else .server
    let i ← onStore store (Keyring.createIdentity usage subject expiration (some label))
    pure ["Created " ++ label ++ " (expires " ++ i.expiration.describe ++ ")"]
  | "import" =>
    let file := (inv.value? "file").getD ""
    let data ← match (← get).host.files.read (filePath file) with
      | .ok d => pure d
      | .error e => abortWith e.debugText
    let i ← onStore store (Keyring.importIdentity data (inv.value? "password") label)
    let name := match i.commonName with
      | some n => "Some(" ++ Text.quote n ++ ")"
      | none => "None"
    pure ["Imported " ++ label ++ ": " ++ toString i.certificates.length ++
      " certificate(s), common name " ++ name]
  | "export" =>
    let output := (inv.value? "output").getD ""
    let bundle ← onStore store (Keyring.exportIdentity label ((inv.value? "password").getD ""))
    match (← get).host.files.write (filePath output) bundle with
    | .ok fs => modify fun w => { w with host := { w.host with files := fs } }
    | .error e => abortWith e.debugText
    pure ["Exported " ++ label ++ " to " ++ output]
  | "delete" =>
    onStore store (Keyring.deleteIdentity label)
    pure ["Deleted " ++ label]
  | "list" =>
    let rows ← storedIdentities store
    pure (identityListing rows ((inv.value? "format").getD "text"))
  | _ =>
    let removed ← onStore store Keyring.deleteAnonymousIdentities
    pure ["Removed " ++ toString removed ++ " anonymous identities"]

/-- How a command that runs until interrupted ends, having printed `printed`: interrupted after
`n` lines, it prints its closing lines and succeeds; never interrupted, it is killed. -/
def untilInterrupted (printed closing : List String) : Option Nat → ToolRun
  | some n =>
    if n ≤ printed.length then { code := some 0, stdout := printed ++ closing }
    else { code := none, stdout := printed, timedOut := true }
  | none => { code := none, stdout := printed, timedOut := true }

/-- The database path, which `listen` and `replicate` need. -/
def requirePath (inv : Invocation) (command : String) : ToolM String :=
  match inv.value? "path" with
  | some p => pure p
  | none => abortWith (Text.quote ("Database path required for " ++ command))

/-- Runs `listen`: serves the database until interrupted. -/
def listenRun (inv : Invocation) (interrupt : Option Nat) : ToolM ToolRun := do
  let h ← openDatabase (← requirePath inv "listen")
  let (store, identity) ← match inv.value? "identities" with
    | none => pure (IdentityStore.memory [], none)
    | some dir =>
      let store ← openStore dir
      match inv.value? "identity" with
      | some label => pure (store, some (← requireIdentity store dir label))
      | none => pure (store, none)
  let authenticator := match inv.value? "username", inv.value? "password" with
    | some u, some p => Authenticator.password fun a b => a == u && b == p
    | _, _ => .none
  let d ← World.database h
  let config : ListenerConfig :=
    { database := h, databaseName := d.name, port := (inv.value? "port").bind String.toNat?,
      networkInterface := inv.value? "interface", disableTls := inv.flag "no_tls", identity,
      authenticator, readOnly := inv.flag "read_only", deltaSync := inv.flag "delta_sync" }
  let keyring ← addKeyring store
  let i := (← get).listeners.size
  let actor ← World.addActor (.listener i)
  modify fun w => { w with listeners := w.listeners.push { config, keyring, actor } }
  match ← startListener Listener.serverConfig i with
  | .error e => abortWith e.debugText
  | .ok () =>
    match ((← get).listeners.getD i default).running with
    | none => pure (untilInterrupted [] ["Stopping..."] interrupt)
    | some b =>
      let certificate := match b.identity with
        | some ident =>
          ["  certificate: " ++ (ident.commonName.getD "") ++ " (expires " ++
            ident.expiration.describe ++ ")"]
        | none => []
      let printed := ["Serving " ++ d.name ++ " (" ++ toString d.state.documentCount ++
        " documents)"] ++ b.urls.map (fun u => "  " ++ u.toText) ++ certificate
      pure (untilInterrupted printed ["Stopping..."] interrupt)

/-- The first certificate of a PEM file. -/
def readCertificate (file : String) : ToolM ByteArray := do
  let data ← match (← get).host.files.read (filePath file) with
    | .ok d => pure d
    | .error e => abortWith e.debugText
  let text := (String.fromUTF8? data).getD ""
  match Pem.sectionsOf (· == .certificate) (Pem.lines text) none [] with
  | .error e => abortWith ({ kind := .invalidData, detail := .message e.message } : IoError).debugText
  | .ok sections =>
    match sections.find? (·.1 == .certificate) with
    | some (_, der) => pure der
    | none => abortWith (Text.quote ("No certificate in " ++ file))

/-- Runs `replicate`: checks the settings, then replicates until interrupted. Nothing is pulled
or pushed, as the listener it names cannot be reached. -/
def replicateRun (inv : Invocation) (interrupt : Option Nat) : ToolM ToolRun := do
  let _ ← openDatabase (← requirePath inv "replicate")
  match EndpointUrl.parse ((inv.value? "url").getD "") with
  | .error e => abortWith e.debugText
  | .ok _ => pure ()
  if let some pin := inv.value? "pin" then
    let _ ← readCertificate pin
  match inv.value? "identities", inv.value? "client_identity" with
  | some dir, some label =>
    let store ← openStore dir
    let _ ← requireIdentity store dir label
  | _, _ => pure ()
  pure (untilInterrupted [] ["Stopping...", "Replication finished: 0 pushed, 0 pulled"] interrupt)

/-- Performs the command an invocation names. -/
def perform (inv : Invocation) (interrupt : Option Nat) : ToolM ToolRun :=
  match inv.path with
  | [_, "listen"] => listenRun inv interrupt
  | [_, "replicate"] => replicateRun inv interrupt
  | [_, "identity", action] => do
    let out ← identityRun inv action
    pure { code := some 0, stdout := out }
  | _ => pure { code := some 0, stdout := ["docsync CLI v" ++ Tool.version] }

/-- The first line of a panic's report. -/
def panicHeader : String := "thread 'main' panicked"

/-- Runs the tool with the given words, interrupted after `interrupt` printed lines if given. -/
def runTool (words : List String) (interrupt : Option Nat) : Step ToolRun := do
  match Tool.commands.read words with
  | .error (.shown t) => pure { code := some 0, stdout := printedLines t }
  | .error (.refused t) => pure { code := some 2, stderr := printedLines t }
  | .ok inv =>
    match ← (perform inv interrupt).run with
    | .ok r => pure r
    | .error (.error d) => pure { code := some 1, stderr := ["Error: " ++ d] }
    | .error (.panic m) =>
      pure { code := some 101, stderr := ["", panicHeader, m,
        "note: run with `RUST_BACKTRACE=1` environment variable to display a backtrace"] }

end Service

end RevSync
