import RevSync.Revision.Basic
import RevSync.Cbor.Write
import RevSync.Cbor.Read

/-!
# Revisions in CBOR

A revision is written as a record of its six fields in declaration order: document id, revision
id (as text), history (texts), deletion flag, body (a map) and sequence. Reading needs all six.
-/

namespace RevSync

namespace Revision

/-- A revision as a CBOR record. -/
def toCbor (r : Revision) : ByteArray :=
  Cbor.record [("doc_id", Cbor.text r.docId), ("rev_id", Cbor.text r.revId.toText),
    ("history", Cbor.array (r.history.map fun h => Cbor.text h.toText)),
    ("deleted", Cbor.bool r.deleted), ("body", (Json.obj r.body).toCbor),
    ("sequence", Cbor.unsigned r.sequence)]

/-- The fields of a revision found so far while reading. -/
structure Parts where
  docId : Option String := none
  revId : Option RevisionId := none
  history : Option (List RevisionId) := none
  deleted : Option Bool := none
  body : Option Fields := none
  sequence : Option Nat := none

end Revision

namespace Cbor

namespace Read

section
variable (b : ByteArray)

/-- The largest 64-bit number. -/
def u64Max : Nat := Nat.pow 2 64 - 1

/-- A revision id: text that reads as one. -/
def revisionId (pos : Nat) : Option (RevisionId × Nat) := do
  let (s, q) ← string b pos
  let r ← RevisionId.parse? s
  pure (r, q)

/-- Reads field `i` of a revision. -/
def revisionField (p : Revision.Parts) (i depth pos : Nat) : Option (Revision.Parts × Nat) :=
  match i with
  | 0 => (fun (v, q) => ({ p with docId := some v }, q)) <$> string b pos
  | 1 => (fun (v, q) => ({ p with revId := some v }, q)) <$> revisionId b pos
  | 2 => (fun (v, q) => ({ p with history := some v }, q)) <$>
      array b (fun _ => revisionId b) depth pos
  | 3 => (fun (v, q) => ({ p with deleted := some v }, q)) <$> bool b pos
  | 4 => (fun (v, q) => ({ p with body := some v }, q)) <$> jsonObject b depth pos
  | _ => (fun (v, q) => ({ p with sequence := some v }, q)) <$> natUpTo b u64Max pos

/-- A revision record. -/
def revision (depth pos : Nat) : Option (Revision × Nat) := do
  let (p, q) ← record b ["doc_id", "rev_id", "history", "deleted", "body", "sequence"]
    (revisionField b) {} depth pos
  match p.docId, p.revId, p.history, p.deleted, p.body, p.sequence with
  | some docId, some revId, some history, some deleted, some body, some sequence =>
    some ({ docId, revId, history, deleted, body, sequence }, q)
  | _, _, _, _, _, _ => none

end

end Read

end Cbor

end RevSync
