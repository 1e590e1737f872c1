import RevSync.Service.Databases
import RevSync.Service.Message
import RevSync.Replication.Passive

/-!
# Serving one connection

A script can play the active peer against a passive session by hand. The session's messages
go to one FIFO outbox that the scripted peer reads from the front. After each message it sends,
the peer sends `ping` and reads up to the matching `pong`, so every answer is read before the
next item; an item can also change the database under the session, raise the shutdown signal,
or stop once the peer has seen the connection close.

The session is idle whenever the peer is not sending: only then does it stream what a continuous
subscription has waiting, as a session that prefers incoming messages to its change feed does.
-/

namespace RevSync

namespace Service

open World

/-- What the peer can read from the connection. -/
inductive Outgoing where
  | message (m : Message)
  | closed

/-- One connection between the scripted peer and a passive session. -/
structure Link where
  session : PassiveSession
  /-- What the session sent that the peer has not read yet. -/
  outbox : List Message := []
  /-- Whether the peer has seen the connection close. -/
  peerSawClose : Bool := false

namespace Link

/-- Lets the session take one input, queueing what it sends. -/
def feed (l : Link) (f : PassiveSession → StateM Host (PassiveSession × PassiveOutput)) :
    Step Link := do
  let (s, out) ← onHostState (f l.session)
  pure { l with session := s, outbox := l.outbox ++ out.messages }

/-- The idle session streams what its subscription has waiting. -/
def idle (l : Link) : Step Link := do
  if l.session.hasChanges (← get).host then l.feed PassiveSession.catchUp else pure l

/-- Reads one thing from the connection: the next message, the close once the session ended,
or nothing when the session waits. -/
def read (l : Link) : Step (Option Outgoing × Link) := do
  let l ← if l.outbox.isEmpty then l.idle else pure l
  match l.outbox with
  | m :: rest => pure (some (.message m), { l with outbox := rest })
  | [] =>
    if l.session.isFinished then pure (some .closed, { l with peerSawClose := true })
    else pure (none, l)

end Link

/-- A message the peer read, with the served database's UUID masked. -/
def shownMessage (served : Uuid) : Message → Json
  | .welcome u c =>
    if u == served then
      Json.object [("Welcome", Json.object [("database_uuid", .str "$db_uuid"),
        ("remote_checkpoint", Json.ofOption Json.ofNat c)])]
    else messageJson (.welcome u c)
  | m => messageJson m

/-- What a read showed; `none` when nothing came. -/
def shownRead (served : Uuid) : Option Outgoing → Json
  | some (.message m) => shownMessage served m
  | some .closed => .str "$closed"
  | none => .str "$timeout"

/-- Reads until the `pongs`-th pong, which is not shown, or until the connection closes. Each
read takes at least one message, so the outbox length bounds the reads. -/
def readToPong (served : Uuid) (fuel pongs : Nat) (l : Link) : Step (List Json × Link) :=
  match fuel with
  | 0 => pure ([], l)
  | fuel + 1 => do
    let (o, l) ← l.read
    match o with
    | some (.message .pong) =>
      if pongs ≤ 1 then pure ([], l)
      else do
        let (rest, l) ← readToPong served fuel (pongs - 1) l
        pure (shownMessage served .pong :: rest, l)
    | some (.message m) =>
      let (rest, l) ← readToPong served fuel pongs l
      pure (shownMessage served m :: rest, l)
    | other => pure ([shownRead served other], l)

/-- Reads exactly `n` things, stopping early when nothing comes or the connection closed. -/
def readExactly (served : Uuid) : Nat → Link → Step (List Json × Link)
  | 0, l => pure ([], l)
  | n + 1, l => do
    let (o, l) ← l.read
    match o with
    | some (.message m) =>
      let (rest, l) ← readExactly served n l
      pure (shownMessage served m :: rest, l)
    | other => pure ([shownRead served other], l)

/-- Reads everything until the connection closes. -/
def readToClose (served : Uuid) (l : Link) : Step (List Json × Link) :=
  readToPong served (l.outbox.length + 1) 0 l

/-- The exit of a session, as shown. -/
def exitJson : PassiveExit → Json
  | .completed => .str "Completed"
  | .shutDown => .str "ShutDown"
  | .rejected c => Json.object [("Rejected", Json.ofNat c.code.toNat)]
  | .failed e => Json.object [("Failed", replicationErrorJson e)]

/-- Reads the policy of a served session. -/
def readPassiveOptions (s : Json) : Read PassiveOptions := do
  let authenticator ← match field? s "auth" with
    | none | some (.str "none") => pure Authenticator.none
    | some (.str "certificate") => pure (.certificate (.predicate fun _ => true))
    | some (.obj [("password", .arr [u, p])]) => do
      let u ← asText u
      let p ← asText p
      pure (.password fun user pass => user == u && pass == p)
    | some _ => unreadable
  let readOnly ← flag s "read_only" false
  let deltaSync ← flag s "delta_sync" false
  let batchSize ← (·.getD 100) <$> nat? s "batch_size"
  pure { readOnly, authenticator, deltaSync, batchSize }

/-- One item of a served conversation. -/
inductive PeerItem where
  | send (m : Message)
  | shutdown
  | script (step : Json) (expect : Nat)

/-- Reads an item. -/
def readPeerItem (v : Json) : Read PeerItem :=
  match v with
  | .obj [("$shutdown", .bool true)] => pure .shutdown
  | .obj _ =>
    match field? v "$db" with
    | some step => do
      let expect ← (·.getD 1) <$> nat? v "expect"
      pure (.script step expect)
    | none => PeerItem.send <$> asMessage v
  | _ => PeerItem.send <$> asMessage v

/-- Plays one item; `runLocal` runs a script step against the world. -/
def playPeerItem (runLocal : Json → Step Json) (served : Uuid) (l : Link) :
    PeerItem → Step (Json × Link)
  | .send m => do
    if l.peerSawClose then return (.str "$not_sent", l)
    let l ← l.idle
    let l ← l.feed fun s => s.handle m
    let l ← l.feed fun s => s.handle .ping
    let pongs := match m with
      | .ping => 2
      | _ => 1
    let (seen, l) ← readToPong served (l.outbox.length + 1) pongs l
    pure (.arr seen, l)
  | .shutdown => do
    if l.peerSawClose then return (.str "$not_sent", l)
    let (s, out) := l.session.shutdown
    let l := { l with session := s, outbox := l.outbox ++ out.messages }
    let (seen, l) ← readToClose served l
    pure (.arr seen, l)
  | .script step expect => do
    let result ← runLocal step
    let (seen, l) ← readExactly served expect l
    pure (Json.object [("step", result), ("messages", .arr seen)], l)

/-- Plays the items in order. -/
def playPeerItems (runLocal : Json → Step Json) (served : Uuid) :
    Link → List PeerItem → Step (List Json × Link)
  | l, [] => pure ([], l)
  | l, item :: rest => do
    let (r, l) ← playPeerItem runLocal served l item
    let (rs, l) ← playPeerItems runLocal served l rest
    pure (r :: rs, l)

/-- Serves one connection by hand; `runLocal` runs the items' script steps. -/
def passiveStep (runLocal : Json → Step Json) (s : Json) : Step Json := do
  let h ← handleAt s "db"
  let options ← reading (readPassiveOptions s)
  let items ← reading (list s "messages" >>= fun xs => xs.mapM readPeerItem)
  let served := (← database h).state.uuid
  let (responses, l) ← playPeerItems runLocal served { session := { db := h, options } } items
  let session := l.session.peerClosed
  let exit := match session.phase with
    | .finished e => e
    | _ => .completed
  pure (Json.object [("responses", .arr responses), ("exit", exitJson exit),
    ("activated", .bool session.activated)])

end Service

end RevSync
