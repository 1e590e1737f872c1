import RevSync.Revision.Basic
import RevSync.Store.Error
import RevSync.Json.Write

/-!
# Documents

A document is what a caller reads and writes: an id, the revision it was read at (none for a
new document), its sequence, the deletion flag and its properties. Ids are non-empty and at
most 1024 bytes of UTF-8.
-/

namespace RevSync

/-- How a save treats a document whose stored revision moved on since it was read. -/
inductive Concurrency where
  /-- The save wins regardless. -/
  | lastWriteWins
  /-- The save fails unless the stored revision is the one the document was read at. -/
  | failOnConflict
  deriving DecidableEq, Repr, Inhabited

/-- A document as callers see it. -/
structure Document where
  id : String
  revision : Option RevisionId := none
  sequence : Nat := 0
  deleted : Bool := false
  properties : Fields := []
  deriving Inhabited

namespace Document

/-- A new document with the given properties. -/
def withProperties (id : String) (properties : Fields) : Document := { id, properties }

/-- A document from a JSON value, which must be an object. -/
def ofJson (id : String) (value : Json) : Except StoreError Document :=
  match value with
  | .obj fields => .ok (withProperties id fields)
  | other => .error (.invalidOperation
      ("document body must be a JSON object, got " ++ other.compact))

/-- The document a stored revision shows. -/
def ofRevision (r : Revision) : Document :=
  { id := r.docId, revision := some r.revId, sequence := r.sequence, deleted := r.deleted,
    properties := r.body }

/-- Sets a property. -/
def set (d : Document) (key : String) (value : Json) : Document :=
  { d with properties := d.properties.insert key value }

/-- Removes a property. -/
def remove (d : Document) (key : String) : Document :=
  { d with properties := d.properties.erase key }

/-- The text of a property, if it is text. -/
def getText? (d : Document) (key : String) : Option String :=
  match d.properties.get? key with
  | some (.str s) => some s
  | _ => none

/-- Field-by-field equality, properties compared as JSON values. -/
def sameAs (a b : Document) : Bool :=
  a.id == b.id && a.revision == b.revision && a.sequence == b.sequence &&
    a.deleted == b.deleted && Json.sameFields a.properties b.properties

end Document

/-- The longest document id, in bytes. -/
def maxDocumentIdBytes : Nat := 1024

/-- Checks that an id is non-empty and at most `maxDocumentIdBytes` long. -/
def validateDocumentId (id : String) : Except StoreError Unit :=
  if id.isEmpty then .error (.invalidDocumentId "document id must not be empty")
  else if id.utf8ByteSize > maxDocumentIdBytes then
    .error (.invalidDocumentId "document id exceeds 1024 bytes")
  else .ok ()

end RevSync
