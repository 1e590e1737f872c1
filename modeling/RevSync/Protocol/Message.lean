import RevSync.Protocol.ErrorCode
import RevSync.Revision.Basic
import RevSync.Codec.Uuid

/-!
# Messages

What two replicating peers say to each other. The active peer opens with `hello`; the passive
peer answers `welcome` (or `error`). Pulling is `subChanges` answered by batches of `revs` and
`caughtUp` once the backlog is sent; pushing is `revs` answered by `revsAck`; the active peer
records its pull progress with `setCheckpoint`; `ping` and `pong` keep the connection alive and
`close` ends it.
-/

namespace RevSync

/-- The protocol version this library speaks. -/
def protocolVersion : UInt16 := 1

/-- The opening message of the active peer. -/
structure Hello where
  protocolVersion : UInt16
  database : String
  checkpointId : String
  authorization : Option String
  headers : TextMap String
  deltaSync : Bool
  deriving DecidableEq, Repr, Inhabited

/-- A pushed revision the passive peer refused, with the reason's code. -/
structure Rejection where
  docId : String
  revId : RevisionId
  code : ErrorCode
  deriving DecidableEq, Repr, Inhabited

/-- One message. -/
inductive Message where
  | hello (h : Hello)
  | welcome (databaseUuid : Uuid) (remoteCheckpoint : Option Nat)
  | error (code : ErrorCode) (message : String)
  | subChanges (since : Nat) (continuous : Bool) (batchSize : Nat)
  | revs (revisions : List Revision) (sequence : Nat)
  | caughtUp (sequence : Nat)
  | revsAck (accepted : List (String × RevisionId)) (rejected : List Rejection)
  | setCheckpoint (checkpointId : String) (sequence : Nat)
  | ping
  | pong
  | close (code : ErrorCode) (reason : String)
  deriving Inhabited

namespace Message

/-- The message's kind. -/
def kind : Message → String
  | .hello _ => "Hello"
  | .welcome _ _ => "Welcome"
  | .error _ _ => "Error"
  | .subChanges _ _ _ => "SubChanges"
  | .revs _ _ => "Revs"
  | .caughtUp _ => "CaughtUp"
  | .revsAck _ _ => "RevsAck"
  | .setCheckpoint _ _ => "SetCheckpoint"
  | .ping => "Ping"
  | .pong => "Pong"
  | .close _ _ => "Close"

/-- Equality of messages, revision bodies compared as JSON values. -/
def sameAs : Message → Message → Bool
  | .hello a, .hello b => a == b
  | .welcome u1 c1, .welcome u2 c2 => u1 == u2 && c1 == c2
  | .error c1 m1, .error c2 m2 => c1 == c2 && m1 == m2
  | .subChanges s1 c1 n1, .subChanges s2 c2 n2 => s1 == s2 && c1 == c2 && n1 == n2
  | .revs r1 s1, .revs r2 s2 =>
    r1.length == r2.length && (r1.zip r2).all (fun (x, y) => x.sameAs y) && s1 == s2
  | .caughtUp s1, .caughtUp s2 => s1 == s2
  | .revsAck a1 r1, .revsAck a2 r2 => a1 == a2 && r1 == r2
  | .setCheckpoint c1 s1, .setCheckpoint c2 s2 => c1 == c2 && s1 == s2
  | .ping, .ping => true
  | .pong, .pong => true
  | .close c1 r1, .close c2 r2 => c1 == c2 && r1 == r2
  | _, _ => false

end Message

end RevSync
