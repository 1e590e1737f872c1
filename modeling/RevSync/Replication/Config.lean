import RevSync.Replication.Endpoint
import RevSync.Replication.Retry
import RevSync.Tls.Authenticator
import RevSync.Store.Document
import RevSync.Codec.Uuid

/-!
# Replicator configuration

Everything a replicator is built from: the local database, the peer, the direction, whether it
keeps running, credentials and trust settings for TLS peers, filters deciding which documents
travel, the conflict resolver, handshake headers, timeouts, retries and the batch size.

The peer is either a URL of a listener or another database of the same host, named by its
handle. The resolver is left abstract (`ρ`): the configuration only records which one to use, and
whoever runs the replicator says what calling it means.
-/

namespace RevSync

/-- Which way a replicator sends documents. -/
inductive ReplicatorKind where
  | push
  | pull
  | pushAndPull
  deriving DecidableEq, Repr, Inhabited

namespace ReplicatorKind

/-- Whether local changes are sent. -/
def isPush : ReplicatorKind → Bool
  | .push | .pushAndPull => true
  | .pull => false

/-- Whether remote changes are received. -/
def isPull : ReplicatorKind → Bool
  | .pull | .pushAndPull => true
  | .push => false

/-- The kind's name. -/
def name : ReplicatorKind → String
  | .push => "Push"
  | .pull => "Pull"
  | .pushAndPull => "PushAndPull"

end ReplicatorKind

/-- Decides whether a document travels, given the document and whether it is a deletion. -/
abbrev DocumentFilter := Document → Bool → Bool

/-- Whether a filter admits a revision; no filter admits everything. -/
def admits (filter : Option DocumentFilter) (r : Revision) : Bool :=
  match filter with
  | some f => f (Document.ofRevision r) r.deleted
  | none => true

/-- How long to wait for a connection, and how often to check the peer is alive. -/
structure NetworkTimeouts where
  connect : Duration := .ofSecs 15
  heartbeat : Duration := .ofSecs 300
  deriving Inhabited

/-- The timeouts' debugging text. -/
def NetworkTimeouts.describe (t : NetworkTimeouts) : String :=
  "NetworkTimeouts \x7b connect: " ++ t.connect.describe ++ ", heartbeat: " ++
    t.heartbeat.describe ++ " \x7d"

/-- The peer of a replicator. -/
inductive Endpoint where
  /-- A listener reachable over the network. -/
  | url (u : EndpointUrl)
  /-- Another database of the same host, by handle. -/
  | database (h : Nat)
  deriving Inhabited

namespace Endpoint

/-- Whether the peer is reached over the network. -/
def isRemote : Endpoint → Bool
  | .url _ => true
  | .database _ => false

/-- The key the endpoint contributes to checkpoint ids; a database is known by its UUID. -/
def checkpointKey (e : Endpoint) (uuidOf : Nat → Uuid) : String :=
  match e with
  | .url u => u.toText
  | .database h => "local:" ++ Uuid.toText (uuidOf h)

/-- The endpoint's debugging text; a database is shown by name. -/
def describe (e : Endpoint) (nameOf : Nat → String) : String :=
  match e with
  | .url u => "Endpoint::Url(" ++ u.toText ++ ")"
  | .database h => "Endpoint::Database(" ++ nameOf h ++ ")"

end Endpoint

/-- A replicator's settings, with resolvers of type `ρ`. -/
structure ReplicatorConfig (ρ : Type) where
  database : Nat
  endpoint : Endpoint
  kind : ReplicatorKind := .pushAndPull
  continuous : Bool := false
  authenticator : Authenticator := .none
  pinnedCertificate : Option ByteArray := none
  selfSignedOnly : Bool := false
  trustedRoots : List ByteArray := []
  pushFilter : Option DocumentFilter := none
  pullFilter : Option DocumentFilter := none
  resolver : Option ρ := none
  headers : TextMap String := []
  timeouts : NetworkTimeouts := {}
  retry : RetryPolicy := .standard 10
  batchSize : Nat := 100

namespace ReplicatorConfig

variable {ρ : Type}

/-- Sets the batch size, raising zero to one. -/
def withBatchSize (c : ReplicatorConfig ρ) (n : Nat) : ReplicatorConfig ρ :=
  { c with batchSize := max n 1 }

/-- The headers' debugging text, as a map. -/
def headersText (hs : TextMap String) : String :=
  "\x7b" ++ ", ".intercalate (hs.map fun (k, v) => Text.quote k ++ ": " ++ Text.quote v) ++ "\x7d"

/-- The configuration's debugging text; the database and a database endpoint are shown by
name. -/
def describe (c : ReplicatorConfig ρ) (nameOf : Nat → String) : String :=
  "ReplicatorConfiguration \x7b database: " ++ Text.quote (nameOf c.database) ++
    ", endpoint: " ++ c.endpoint.describe nameOf ++
    ", replicator_type: " ++ c.kind.name ++
    ", continuous: " ++ toString c.continuous ++
    ", authenticator: " ++ c.authenticator.describe ++
    ", pinned: " ++ toString c.pinnedCertificate.isSome ++
    ", self_signed_only: " ++ toString c.selfSignedOnly ++
    ", push_filter: " ++ toString c.pushFilter.isSome ++
    ", pull_filter: " ++ toString c.pullFilter.isSome ++
    ", custom_resolver: " ++ toString c.resolver.isSome ++
    ", headers: " ++ headersText c.headers ++
    ", timeouts: " ++ c.timeouts.describe ++ ", .. \x7d"

end ReplicatorConfig

end RevSync
