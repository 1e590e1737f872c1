import RevSync.Host.IoError

/-!
# Store errors

Every way a database operation can fail, with its message.
-/

namespace RevSync

/-- Why a database operation failed. -/
inductive StoreError where
  | io (e : IoError)
  | codec (message : String)
  | conflict (docId : String)
  | documentNotFound (docId : String)
  | invalidDocumentId (message : String)
  | invalidRevisionId (text : String)
  | databaseLocked
  | invalidFormat (message : String)
  | invalidOperation (message : String)
  | databaseClosed
  deriving DecidableEq, Repr, Inhabited

namespace StoreError

/-- The error's message. -/
def message : StoreError → String
  | .io e => "I/O error: " ++ e.message
  | .codec m => "codec error: " ++ m
  | .conflict d => "conflict saving document " ++ d
  | .documentNotFound d => "document not found: " ++ d
  | .invalidDocumentId m => "invalid document id: " ++ m
  | .invalidRevisionId t => "invalid revision id: " ++ t
  | .databaseLocked => "database locked: another process has exclusive access"
  | .invalidFormat m => "invalid database format: " ++ m
  | .invalidOperation m => "invalid operation: " ++ m
  | .databaseClosed => "database is closed"

/-- The name of the error's kind. -/
def kindName : StoreError → String
  | .io _ => "Io"
  | .codec _ => "Codec"
  | .conflict _ => "Conflict"
  | .documentNotFound _ => "DocumentNotFound"
  | .invalidDocumentId _ => "InvalidDocumentId"
  | .invalidRevisionId _ => "InvalidRevisionId"
  | .databaseLocked => "DatabaseLocked"
  | .invalidFormat _ => "InvalidFormat"
  | .invalidOperation _ => "InvalidOperation"
  | .databaseClosed => "DatabaseClosed"

/-- The error's debugging text. -/
def debugText : StoreError → String
  | .io e => "Io(" ++ e.debugText ++ ")"
  | .codec m => "Codec \x7b message: " ++ Text.quote m ++ " \x7d"
  | .conflict d => "Conflict \x7b doc_id: " ++ Text.quote d ++ " \x7d"
  | .documentNotFound d => "DocumentNotFound \x7b doc_id: " ++ Text.quote d ++ " \x7d"
  | .invalidDocumentId m => "InvalidDocumentId \x7b message: " ++ Text.quote m ++ " \x7d"
  | .invalidRevisionId t => "InvalidRevisionId(" ++ Text.quote t ++ ")"
  | .databaseLocked => "DatabaseLocked"
  | .invalidFormat m => "InvalidFormat \x7b message: " ++ Text.quote m ++ " \x7d"
  | .invalidOperation m => "InvalidOperation \x7b message: " ++ Text.quote m ++ " \x7d"
  | .databaseClosed => "DatabaseClosed"

/-- Whether the error is a lost compare-and-set. -/
def isConflict : StoreError → Bool
  | .conflict _ => true
  | _ => false

end StoreError

end RevSync
