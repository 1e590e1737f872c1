import RevSync.Service.Encode
import RevSync.Service.Request
import RevSync.Replication.Endpoint
import RevSync.Replication.Retry
import RevSync.Protocol.Authorization
import RevSync.Codec.Uuid

/-!
# Requests without state

Requests that compute one value from their fields: revision ids, checkpoint ids, documents from
JSON, authorization headers, endpoint URLs, error conversions and retry delays.
-/

namespace RevSync

namespace Service

/-- A revision id, or the store's error for its text. -/
def readRevisionId (s : String) : Except StoreError RevisionId :=
  match RevisionId.parse? s with
  | some r => .ok r
  | none => .error (.invalidRevisionId s)

/-- A revision id's text and parts. -/
def revisionIdParts (r : RevisionId) : Json :=
  Json.object [("rev_id", .str r.toText), ("generation", Json.ofNat r.generation.toNat),
    ("digest", .str r.digest)]

/-- The answer of a store computation. -/
def storeAnswer {α : Type} (f : α → Json) : Except StoreError α → Json
  | .ok a => f a
  | .error e => storeErrorJson e

/-- The I/O kinds a request may name. -/
def ioKindsNamed : List IoKind :=
  [.connectionRefused, .connectionReset, .connectionAborted, .timedOut, .addrNotAvailable,
    .addrInUse, .notFound, .brokenPipe, .unexpectedEof, .permissionDenied, .invalidData, .other]

/-- An I/O error described by a request: a certificate fault, a received alert, or a kind with
an optional message. -/
def readIoError (spec : Json) : Read IoError := do
  if let some name ← text? spec "certificate_error" then
    let f ← need (CertificateFault.ofName? name)
    return ⟨.invalidData, .tls (.certificate f)⟩
  if let some name ← text? spec "alert" then
    let a ← need (Alert.ofName? name)
    return ⟨.invalidData, .tls (.alert a)⟩
  let kind ← need (IoKind.ofName? (← text spec "kind"))
  unless ioKindsNamed.contains kind do unreadable
  match ← text? spec "message" with
  | some m => return ⟨kind, .message m⟩
  | none => return ⟨kind, .none⟩

/-- A message field, empty when missing. -/
def messageOf (spec : Json) : Read String := (·.getD "") <$> text? spec "message"

/-- A store error described by a request. -/
def readStoreError (spec : Json) : Read StoreError := do
  let m ← messageOf spec
  match ← text spec "kind" with
  | "Io" => .io <$> (field spec "io" >>= readIoError)
  | "Codec" => pure (.codec m)
  | "Conflict" => pure (.conflict m)
  | "DocumentNotFound" => pure (.documentNotFound m)
  | "InvalidDocumentId" => pure (.invalidDocumentId m)
  | "InvalidRevisionId" => pure (.invalidRevisionId m)
  | "DatabaseLocked" => pure .databaseLocked
  | "InvalidFormat" => pure (.invalidFormat m)
  | "InvalidOperation" => pure (.invalidOperation m)
  | "DatabaseClosed" => pure .databaseClosed
  | _ => unreadable

/-- A protocol error described by a request. -/
def readProtocolError (spec : Json) : Read ProtocolError := do
  let m ← messageOf spec
  match ← text spec "kind" with
  | "Io" => .io <$> (field spec "io" >>= readIoError)
  | "Encode" => pure (.encode m)
  | "Decode" => pure (.decode m)
  | "FrameTooLarge" => return .frameTooLarge (← nat spec "len") (← nat spec "max")
  | "UnexpectedMessage" => return .unexpectedMessage (← text spec "expected") (← text spec "got")
  | "ConnectionClosed" => pure .connectionClosed
  | _ => unreadable

/-- A TLS error described by a request. -/
def readTlsError (spec : Json) : Read TlsError := do
  let m ← messageOf spec
  match ← text spec "kind" with
  | "Io" => pure (.io ⟨.other, .message m⟩)
  | "CertificateGeneration" => pure (.certificateGeneration m)
  | "InvalidCertificate" => pure (.invalidCertificate m)
  | "InvalidPrivateKey" => pure (.invalidPrivateKey m)
  | "LabelExists" => pure (.labelExists m)
  | "IdentityNotFound" => pure (.identityNotFound m)
  | "Decryption" => pure (.decryption m)
  | "Codec" => pure (.codec m)
  | "Config" => pure (.config m)
  | _ => unreadable

/-- A replication error described by a request, built directly. -/
def readReplicationError (spec : Json) : Read ReplicationError := do
  let m ← messageOf spec
  match ← text spec "kind" with
  | "NetworkUnreachable" => pure (.networkUnreachable m)
  | "ConnectionRefused" => pure (.connectionRefused m)
  | "Network" => pure (.network m)
  | "TlsCertUnknownRoot" => pure .tlsCertUnknownRoot
  | "TlsCertUntrusted" => pure .tlsCertUntrusted
  | "TlsClientCertRejected" => pure .tlsClientCertRejected
  | "HttpAuthRequired" => pure (.httpAuthRequired m)
  | "HttpForbidden" => pure (.httpForbidden m)
  | "NotFound" => pure (.notFound m)
  | "Conflict" => pure (.conflict m)
  | "Unsupported" => pure (.unsupported m)
  | "WebSocketGoingAway" => pure (.webSocketGoingAway m)
  | "Protocol" => pure (.protocol m)
  | "Database" => pure (.database m)
  | "Tls" => pure (.tls m)
  | "InvalidConfiguration" => pure (.invalidConfiguration m)
  | _ => unreadable

/-- A 16-bit natural field. -/
def readU16 (req : Json) (key : String) : Read UInt16 := (·.toUInt16) <$> natUpTo req key 65535

/-- The replication error a request describes, by whichever of its error fields it has. -/
def replicationErrorOf (req : Json) : Read ReplicationError := do
  if let some s := field? req "store" then return .ofStore (← readStoreError s)
  if let some s := field? req "protocol" then return .ofProtocol (← readProtocolError s)
  if let some s := field? req "tls" then return .ofTls (← readTlsError s)
  if let some s := field? req "peer" then
    return .ofPeer ⟨← readU16 s "code"⟩ (← messageOf s)
  if let some s := field? req "io" then return .ofIo (← readIoError s)
  if let some s := field? req "error" then return ← readReplicationError s
  unreadable

/-- The display of an error a request describes. -/
def errorDisplay (req : Json) : Read Json := do
  if let some s := field? req "store" then
    let e ← readStoreError s
    return Json.object [("display", .str e.message), ("is_conflict", .bool e.isConflict)]
  if let some s := field? req "protocol" then
    let e ← readProtocolError s
    return Json.object [("display", .str e.message), ("has_io", .bool e.ioError?.isSome)]
  if let some s := field? req "tls" then
    return Json.object [("display", .str (← readTlsError s).message)]
  unreadable

/-- An endpoint URL's parts. -/
def endpointParts (u : EndpointUrl) : List (String × Json) :=
  [("tls", .bool u.tls), ("host", .str u.host), ("port", Json.ofNat u.port.toNat),
    ("database", .str u.database), ("authority", .str u.authority), ("display", .str u.toText)]

/-- A body field, `{}` when missing. -/
def bodyOf (req : Json) : Read Fields := (·.getD []) <$> optional req "body" asFields

/-- A retry policy described by a request, without jitter. -/
def readRetryPolicy (req : Json) : Read RetryPolicy := do
  let base ← match ← text? req "preset" with
    | some "default" => pure (RetryPolicy.standard 10)
    | some "no_retry" => pure RetryPolicy.once
    | some _ => unreadable
    | none => (fun n => RetryPolicy.standard n.toUInt32) <$>
        ((·.getD 10) <$> optional req "max_attempts" fun v => do
          let n ← asNat v
          if n < Nat.pow 2 32 then pure n else unreadable)
  let p := { base with jitter := false }
  let p := match ← nat? req "initial_ms" with
    | some ms => { p with initialDelay := .ofMillis ms }
    | none => p
  let p := match ← nat? req "max_ms" with
    | some ms => { p with maxDelay := .ofMillis ms }
    | none => p
  let multiplier ← optional req "multiplier" fun
    | .num n => pure n.toBinary64
    | _ => unreadable
  pure (match multiplier with
    | some m => { p with multiplier := m }
    | none => p)

/-- The delays of a retry policy at the requested attempts. -/
def retryDelays (req : Json) : Read Json := do
  let p ← readRetryPolicy req
  let attempts ← (← list req "attempts").mapM fun v => do
    let n ← asNat v
    if n < Nat.pow 2 32 then pure n.toUInt32 else unreadable
  let delays := attempts.map fun a => match p.delayFor a with
    | some d => Json.arr [Json.ofNat d.secs, Json.ofNat d.nanos]
    | none => Json.str "panic"
  return Json.object [("max_attempts", Json.ofNat p.maxAttempts.toNat), ("delays", .arr delays)]

/-- The answer to a request without state, or `none` when its operation is not one of these. -/
def statelessAnswer (op : String) (req : Json) : Option (Read Json) :=
  match op with
  | "rev_parse" => some do
    return storeAnswer revisionIdParts (readRevisionId (← text req "s"))
  | "rev_derive" => some do
    let parent ← text? req "parent"
    let deleted ← flag req "deleted" false
    let body ← bodyOf req
    return storeAnswer revisionIdParts do
      let p ← match parent with
        | some t => some <$> readRevisionId t
        | none => pure none
      pure (RevisionId.derive p deleted body)
  | "rev_merge" => some do
    let l ← text req "local"
    let r ← text req "remote"
    let deleted ← flag req "deleted" false
    let body ← bodyOf req
    return storeAnswer revisionIdParts do
      let li ← readRevisionId l
      let ri ← readRevisionId r
      pure (RevisionId.deriveMerge li ri deleted body)
  | "rev_compare" => some do
    let a ← text req "a"
    let b ← text req "b"
    return storeAnswer id do
      let ra ← readRevisionId a
      let rb ← readRevisionId b
      let order := match RevisionId.compare ra rb with
        | .lt => "less"
        | .eq => "equal"
        | .gt => "greater"
      pure (Json.object [("order", .str order), ("equal", .bool (ra == rb))])
  | "checkpoint_id" => some do
    let u ← need (Uuid.parse? (← text req "uuid"))
    return Json.object [("checkpoint_id", .str (checkpointId u (← text req "key")))]
  | "document_from_json" => some do
    let docId ← text req "id"
    let value := (field? req "value").getD .null
    return storeAnswer documentJson (Document.ofJson docId value)
  | "basic_auth" => some do
    return Json.object [("value", .str (BasicAuth.header (← text req "username") (← text req "password")))]
  | "parse_basic_auth" => some do
    return match BasicAuth.parse? (← text req "value") with
      | some (u, p) => Json.object [("username", .str u), ("password", .str p)]
      | none => Json.object [("username", .null)]
  | "endpoint_parse" => some do
    return match EndpointUrl.parse (← text req "url") with
      | .ok u => Json.object (endpointParts u ++
          [("checkpoint_key", .str u.toText), ("remote", .bool true)])
      | .error e => replicationErrorJson e
  | "endpoint_new" => some do
    let tls ← flag req "tls" false
    let host ← text req "host"
    let port ← readU16 req "port"
    let database ← text req "database"
    let u : EndpointUrl := { tls, host, port, database }
    return Json.object (endpointParts u)
  | "replication_error" => some do
    return replicationPropertiesJson (← replicationErrorOf req)
  | "error_display" => some (errorDisplay req)
  | "tls_classify" => some do
    let e ← readIoError req
    return Json.object [("failure", Json.ofOption (fun f => .str f.name) e.tlsFailure?),
      ("replication_error", replicationPropertiesJson (.ofIo e))]
  | "retry_delay" => some (retryDelays req)
  | _ => none

end Service

end RevSync
