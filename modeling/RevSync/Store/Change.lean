import RevSync.Revision.Id

/-!
# Change events

Every committed save, deletion, purge or applied remote revision yields one change event with
the sequence it was committed at. Subscribers receive them in commit order.
-/

namespace RevSync

/-- What a change did to its document. -/
inductive ChangeType where
  | save
  | delete
  | purge
  deriving DecidableEq, Repr, Inhabited

/-- Who made a change. -/
inductive ChangeOrigin where
  | here
  | peer
  deriving DecidableEq, Repr, Inhabited

/-- One committed change. -/
structure ChangeEvent where
  sequence : Nat
  docId : String
  revId : Option RevisionId
  changeType : ChangeType
  origin : ChangeOrigin
  deriving DecidableEq, Repr, Inhabited

namespace ChangeType

/-- The type's name. -/
def name : ChangeType → String
  | .save => "Save"
  | .delete => "Delete"
  | .purge => "Purge"

end ChangeType

namespace ChangeOrigin

/-- The origin's name. -/
def name : ChangeOrigin → String
  | .here => "Local"
  | .peer => "Remote"

end ChangeOrigin

end RevSync
