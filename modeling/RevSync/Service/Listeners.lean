import RevSync.Service.Identities

/-!
# Listener steps

Scripts make listeners for their databases, start and stop them, and look at what they advertise.
Starting resolves the identity (the configured one, or the database's anonymous identity from
the listener's identity store), sets up TLS with it, resolves the address to bind, binds a port
and registers the listener with its database; the first of these to fail is the answer, and the
listener stays stopped.

The ports listeners get are written `$PORT` wherever they appear.
-/

namespace RevSync

namespace Service

open World

/-- Text with every listener port after a colon written `:$PORT`. -/
def maskPorts (s : String) : Step String := do
  pure ((← get).listenerPorts.foldl (fun acc p => acc.replace (":" ++ toString p) ":$PORT") s)

/-- A port as written in debugging text. -/
def portText (w : World) (p : Nat) : String :=
  if w.listenerPorts.contains p then "$PORT" else toString p

/-- A listener error. -/
def listenerErrorJson (e : ListenerError) : Step Json := do
  match e with
  | .addressInUse _ => pure (errorJson "AddressInUse" (some (← maskPorts e.message)))
  | .invalidConfiguration _ => pure (errorJson "InvalidConfiguration" (some e.message))
  | .tls t => pure (Json.object [("error", .str "Tls"), ("tls", tlsErrorJson t)])
  | .database d => pure (Json.object [("error", .str "Database"), ("store", storeErrorJson d)])
  | .io _ => pure (errorJson "Io" none)

/-- Reads the interface of a listener: an IP address, `lo`, `host:<name>` for a host name, or
`*` for every interface; `127.0.0.1` by default. -/
def readInterface (s : Json) : Read (Option String) := do
  match ← text? s "interface" with
  | none => pure (some "127.0.0.1")
  | some "*" => pure none
  | some "lo" => pure (some "lo")
  | some t =>
    match t.dropPrefix? "host:" with
    | some name => pure (some name.toString)
    | none => if (IpAddr.parse? t).isSome then pure (some t) else unreadable

/-- Reads the authenticator of a listener; a bad client certificate is the TLS error. -/
def readListenerAuth (s : Json) : Read (Except TlsError Authenticator) := do
  match field? s "auth" with
  | none => pure (.ok .none)
  | some v =>
    match v with
    | .obj [("password", .arr [u, p])] =>
      let u ← asText u
      let p ← asText p
      pure (.ok (.password fun a b => a == u && b == p))
    | _ => readAnyAuthenticator v

/-- The listener named by a field. -/
def listenerAt (s : Json) (key : String := "listener") : Step Nat := do
  match (← get).listenerNames.get? (← reading (text s key)) with
  | some i => pure i
  | none => reading unreadable

/-- Reads the port of a listener: 0, or that of another running listener. -/
def readPort (s : Json) : Step (Option Nat) := do
  match field? s "port" with
  | none => pure none
  | some (.num (.nat 0)) => pure (some 0)
  | some (.obj [("of", other)]) =>
    let other ← reading (asText other)
    match (← get).listenerNames.get? other with
    | some j =>
      match ((← get).listeners.getD j default).running with
      | some b => pure (some b.port)
      | none => reading unreadable
    | none => reading unreadable
  | some _ => reading unreadable

/-- Lets go of a listener: it stops, and no longer holds its database. -/
def dropListener (i : Nat) : Step Unit := do
  stopListener i
  modify fun w => { w with listeners := w.listeners.modify i fun l => { l with held := false } }
  collect ((← get).listeners.getD i default).config.database

/-- Makes a listener under a name, replacing the one it named before. -/
def listenerStep (s : Json) : Step Json := do
  let name ← reading (text s "name")
  let h ← handleAt s "db"
  let networkInterface ← reading (readInterface s)
  let constructor ← reading (text? s "constructor")
  match constructor with
  | none | some "with_handle" | some "new" | some "new_no_runtime" => pure ()
  | some _ => reading unreadable
  let tls ← reading (flag s "tls" true)
  let identity ← match ← reading (text? s "identity") with
    | some pem =>
      match TlsIdentity.ofPem pem with
      | .ok i => pure (some i)
      | .error e => return tlsErrorJson e
    | none => pure none
  let store ← match ← reading (text? s "store") with
    | some n =>
      match (← get).keyringNames.get? n with
      | some k => pure (some k)
      | none => reading unreadable
    | none => pure none
  let readOnly ← reading (flag s "read_only" false)
  let deltaSync ← reading (flag s "delta_sync" false)
  let port ← readPort s
  let authenticator ← match ← reading (readListenerAuth s) with
    | .ok a => pure a
    | .error e => return tlsErrorJson e
  if constructor == some "new_no_runtime" then
    return ← listenerErrorJson (.invalidConfiguration "listeners need a tokio runtime")
  let config : ListenerConfig :=
    { database := h, databaseName := (← database h).name, port, networkInterface,
      disableTls := !tls, identity, authenticator, readOnly, deltaSync }
  match config.check with
  | .error e => listenerErrorJson e
  | .ok () =>
    let keyring ← match store with
      | some k => pure k
      | none => addKeyring (.memory [])
    let i := (← get).listeners.size
    let actor ← addActor (.listener i)
    let old := (← get).listenerNames.get? name
    modify fun w => { w with
      listeners := w.listeners.push { config, keyring, actor },
      listenerNames := w.listenerNames.insert name i }
    if let some o := old then dropListener o
    pure okJson

/-- The identity a listener with TLS serves: the configured one, or else its database's anonymous
identity from the listener's identity store, which is generated and stored the first time. -/
def resolveIdentity (slot : ListenerSlot) : Step (Except TlsError TlsIdentity) := do
  match slot.config.identity with
  | some ident => pure (.ok ident)
  | none =>
    let key := (← database slot.config.database).state.uuid.toText
    onKeyring slot.keyring (Keyring.anonymousIdentity key)

/-- The TLS setup of a listener serving `identity`; a listener without one needs none. -/
def tlsSetup (serverConfig : TlsIdentity → Option CertificateCheck → Except TlsError Unit)
    (identity : Option TlsIdentity) (check : Option CertificateCheck) : Except TlsError Unit :=
  match identity with
  | some ident => serverConfig ident check
  | none => .ok ()

/-- Starts listener `i`, whose slot is `slot`, serving `identity`: sets up TLS with it, resolves
the address to bind, binds a port and registers the listener with its database. The first of
these to fail is the answer; a failed registration lets go of the port. `serverConfig` is the
TLS library's server setup for an identity and a client certificate check, which may refuse the
identity. -/
def launchListener (serverConfig : TlsIdentity → Option CertificateCheck → Except TlsError Unit)
    (i : Nat) (slot : ListenerSlot) (identity : Option TlsIdentity) :
    Step (Except ListenerError Unit) := do
  let cfg := slot.config
  if let .error e := tlsSetup serverConfig identity cfg.clientCheck then return .error (.tls e)
  let address ← match Listener.bindAddress cfg.networkInterface with
    | .ok a => pure a
    | .error e => return .error e
  let requested := cfg.port.getD 0
  match (← get).ports.bind address requested with
  | none => return .error (.addressInUse (address.socketText requested))
  | some (port, ports) =>
    modify fun w => { w with ports }
    match ← (onHost (Host.register cfg.database slot.actor)).run with
    | .error e =>
      modify fun w => { w with ports := w.ports.release address port }
      return .error (.database e)
    | .ok token =>
      let urls := Listener.urls Listener.interfaceAddresses address port.toUInt16 identity.isSome
        cfg.databaseName
      let anonymous := identity.isSome && cfg.identity.isNone
      modify fun w => { w with
        listeners := w.listeners.modify i fun l =>
          { l with running := some { address, port, urls, identity, anonymous, token } },
        listenerPorts := if w.listenerPorts.contains port then w.listenerPorts
          else w.listenerPorts ++ [port] }
      pure (.ok ())

/-- Starts a listener; nothing happens if it is running. Without TLS it serves no identity;
with TLS it first resolves its identity. -/
def startListener (serverConfig : TlsIdentity → Option CertificateCheck → Except TlsError Unit)
    (i : Nat) : Step (Except ListenerError Unit) := do
  let slot := (← get).listeners.getD i default
  if slot.running.isSome then return .ok ()
  if slot.config.disableTls then launchListener serverConfig i slot none
  else
    match ← resolveIdentity slot with
    | .ok ident => launchListener serverConfig i slot (some ident)
    | .error e => pure (.error (.tls e))

/-- What a listener reports: whether it runs, its port, URLs and identity, and its counts. -/
def listenerInfo (i : Nat) : Step (List (String × Json)) := do
  let slot := (← get).listeners.getD i default
  let counts := Json.arr [Json.ofNat slot.status.connections, Json.ofNat slot.status.active]
  match slot.running with
  | none =>
    pure [("running", .bool false), ("port", .null), ("urls", .null), ("identity", .null),
      ("connections", counts)]
  | some b =>
    let shown := if b.address.isUnspecified then b.urls.take 1 else b.urls
    let urls ← shown.mapM fun u => maskPorts u.toText
    let identity ← match b.identity with
      | some ident => summaryJson ident (if b.anonymous then .hidden else .seconds)
      | none => pure .null
    pure [("running", .bool true), ("port", .str "$PORT"), ("urls", .arr (urls.map .str)),
      ("identity", identity), ("connections", counts)]

/-- A listener's debugging texts. -/
def listenerDebug (i : Nat) : Step Json := do
  let w ← get
  let slot := w.listeners.getD i default
  let status := slot.status.describe
  let port := match slot.running with
    | some b => "Some(" ++ portText w b.port ++ ")"
    | none => "None"
  let debug := "UrlEndpointListener \x7b database: " ++ Text.quote slot.config.databaseName ++
    ", port: " ++ port ++ ", status: " ++ status ++ " \x7d"
  let config ← maskPorts (maskNearDates (slot.config.describe (portText w)))
  pure (Json.object [("debug", .str debug), ("config", .str config), ("status_debug", .str status)])

/-- The listener steps. -/
def listenerStepFor (op : String) (s : Json) : Option (Step Json) :=
  match op with
  | "listener" => some (listenerStep s)
  | "listener_start" => some do
    let i ← listenerAt s
    let reportTransient ← reading (flag s "report_transient" false)
    match ← startListener Listener.serverConfig i with
    | .ok () => Json.object <$> listenerInfo i
    | .error e =>
      let info ← listenerInfo i
      let fields := [("error", ← listenerErrorJson e), ("info", Json.object info)]
      pure (Json.object (if reportTransient then fields ++ [("transient", .bool e.isTransient)]
        else fields))
  | "listener_info" => some do Json.object <$> listenerInfo (← listenerAt s)
  | "listener_stop" => some do
    let i ← listenerAt s
    stopListener i
    pure (Json.object ((← listenerInfo i) ++ [("stopped", .bool true)]))
  | "listener_delete_anon" => some do
    let i ← listenerAt s
    let keyring := ((← get).listeners.getD i default).keyring
    match ← onKeyring keyring Keyring.deleteAnonymousIdentities with
    | .ok n => pure (Json.ofNat n)
    | .error e => listenerErrorJson (.tls e)
  | "listener_drop" => some do
    let name ← reading (text s "listener")
    match (← get).listenerNames.get? name with
    | some i =>
      modify fun w => { w with listenerNames := w.listenerNames.erase name }
      dropListener i
      pure (.bool true)
    | none => pure (.bool false)
  | "listener_debug" => some do listenerDebug (← listenerAt s)
  | _ => none

end Service

end RevSync
