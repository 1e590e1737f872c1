import RevSync.Revision.Id

/-!
# Revisions

A revision is one stored state of a document: its id, the ids of its ancestors newest first
(bounded in length), the deletion flag, the body and the local sequence at which it was stored.
A revision descends from an id when that id is its own or one of its ancestors'.
-/

namespace RevSync

/-- One revision of a document, as stored and as replicated. -/
structure Revision where
  docId : String
  revId : RevisionId
  history : List RevisionId
  deleted : Bool
  body : Fields
  sequence : Nat
  deriving Inhabited

namespace Revision

/-- Whether `id` is this revision or one of its ancestors. -/
def descendsFrom (r : Revision) (id : RevisionId) : Bool := r.revId == id || r.history.contains id

/-- The revision's id followed by its ancestors. -/
def lineage (r : Revision) : List RevisionId := r.revId :: r.history

/-- Field-by-field equality, bodies compared as JSON values. -/
def sameAs (a b : Revision) : Bool :=
  a.docId == b.docId && a.revId == b.revId && a.history == b.history &&
    a.deleted == b.deleted && Json.sameFields a.body b.body && a.sequence == b.sequence

end Revision

/-- Merges ancestor chains: ids in first-seen order, skipping `exclude` and repeats, and stopping
once `limit` ids are kept. -/
def mergeHistory (chains : List RevisionId) (exclude : RevisionId) (limit : Nat) :
    List RevisionId :=
  go chains []
where
  go : List RevisionId → List RevisionId → List RevisionId
    | [], acc => acc.reverse
    | r :: rest, acc =>
      if r == exclude || acc.contains r then go rest acc
      else if acc.length + 1 ≥ limit then (r :: acc).reverse
      else go rest (r :: acc)

end RevSync
