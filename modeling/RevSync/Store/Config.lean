/-!
# Store configuration

How a database is opened and written: whether opening creates a missing database, whether it
refuses an existing one, how many ancestor ids a revision keeps, whether every commit is synced to
disk, and the format version written into new snapshots. A database opens only snapshots of its
own major format version.
-/

namespace RevSync

/-- Options for opening a database. -/
structure StoreConfig where
  createIfMissing : Bool := true
  errorIfExists : Bool := false
  maxRevisionHistory : Nat := 20
  syncOnCommit : Bool := true
  formatVersion : Nat × Nat := (1, 0)
  deriving DecidableEq, Repr, Inhabited

namespace StoreConfig

/-- How many ancestor ids a revision keeps: the configured number, but at least one. -/
def historyLimit (c : StoreConfig) : Nat := max c.maxRevisionHistory 1

/-- The configuration as its debugging text. -/
def describe (c : StoreConfig) : String :=
  "Config \x7b create_if_missing: " ++ toString c.createIfMissing ++
    ", error_if_exists: " ++ toString c.errorIfExists ++
    ", max_revision_history: " ++ toString c.maxRevisionHistory ++
    ", sync_on_commit: " ++ toString c.syncOnCommit ++
    ", format_version: (" ++ toString c.formatVersion.1 ++ ", " ++ toString c.formatVersion.2 ++
    ") \x7d"

end StoreConfig

end RevSync
