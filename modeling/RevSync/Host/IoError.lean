import RevSync.Tls.Fault
import RevSync.Text.Quoted

/-!
# Input/output errors

An I/O error has a kind and a text. The text is either the kind's own description, a message
given by whoever raised it, a system message with its error number (written
`<message> (os error <n>)`), or a wrapped TLS fault.
-/

namespace RevSync

/-- The class of an I/O failure. -/
inductive IoKind where
  | notFound
  | permissionDenied
  | connectionRefused
  | connectionReset
  | connectionAborted
  | notConnected
  | addrInUse
  | addrNotAvailable
  | brokenPipe
  | alreadyExists
  | notADirectory
  | isADirectory
  | directoryNotEmpty
  | invalidInput
  | invalidData
  | timedOut
  | unexpectedEof
  | invalidFilename
  | other
  deriving DecidableEq, Repr, Inhabited

namespace IoKind

/-- The kind's name. -/
def name : IoKind → String
  | .notFound => "NotFound"
  | .permissionDenied => "PermissionDenied"
  | .connectionRefused => "ConnectionRefused"
  | .connectionReset => "ConnectionReset"
  | .connectionAborted => "ConnectionAborted"
  | .notConnected => "NotConnected"
  | .addrInUse => "AddrInUse"
  | .addrNotAvailable => "AddrNotAvailable"
  | .brokenPipe => "BrokenPipe"
  | .alreadyExists => "AlreadyExists"
  | .notADirectory => "NotADirectory"
  | .isADirectory => "IsADirectory"
  | .directoryNotEmpty => "DirectoryNotEmpty"
  | .invalidInput => "InvalidInput"
  | .invalidData => "InvalidData"
  | .timedOut => "TimedOut"
  | .unexpectedEof => "UnexpectedEof"
  | .invalidFilename => "InvalidFilename"
  | .other => "Other"

/-- The kind's description, the text of an error that carries no message. -/
def description : IoKind → String
  | .notFound => "entity not found"
  | .permissionDenied => "permission denied"
  | .connectionRefused => "connection refused"
  | .connectionReset => "connection reset"
  | .connectionAborted => "connection aborted"
  | .notConnected => "not connected"
  | .addrInUse => "address in use"
  | .addrNotAvailable => "address not available"
  | .brokenPipe => "broken pipe"
  | .alreadyExists => "entity already exists"
  | .notADirectory => "not a directory"
  | .isADirectory => "is a directory"
  | .directoryNotEmpty => "directory not empty"
  | .invalidInput => "invalid input parameter"
  | .invalidData => "invalid data"
  | .timedOut => "timed out"
  | .unexpectedEof => "unexpected end of file"
  | .invalidFilename => "invalid filename"
  | .other => "other error"

/-- Every kind, for reading names. -/
def all : List IoKind :=
  [.notFound, .permissionDenied, .connectionRefused, .connectionReset, .connectionAborted,
   .notConnected, .addrInUse, .addrNotAvailable, .brokenPipe, .alreadyExists, .notADirectory,
   .isADirectory, .directoryNotEmpty, .invalidInput, .invalidData, .timedOut, .unexpectedEof,
   .invalidFilename, .other]

/-- The kind with a given name. -/
def ofName? (s : String) : Option IoKind := all.find? (·.name == s)

end IoKind

/-- What an I/O error says. -/
inductive IoDetail where
  /-- Nothing beyond the kind. -/
  | none
  /-- A message given when the error was raised. -/
  | message (text : String)
  /-- A system error with its number. -/
  | system (code : Nat) (text : String)
  /-- A TLS handshake fault. -/
  | tls (fault : TlsFault)
  deriving DecidableEq, Repr, Inhabited

/-- An I/O error. -/
structure IoError where
  kind : IoKind
  detail : IoDetail := .none
  deriving DecidableEq, Repr, Inhabited

namespace IoError

/-- The error's text. -/
def message (e : IoError) : String :=
  match e.detail with
  | .none => e.kind.description
  | .message t => t
  | .system code t => t ++ " (os error " ++ toString code ++ ")"
  | .tls f => f.message

/-- The error's debugging text: the kind alone, a raised message, or the system error with its
number, kind and text. -/
def debugText (e : IoError) : String :=
  match e.detail with
  | .none => "Kind(" ++ e.kind.name ++ ")"
  | .message t => "Custom \x7b kind: " ++ e.kind.name ++ ", error: " ++ Text.quote t ++ " \x7d"
  | .system code t =>
    "Os \x7b code: " ++ toString code ++ ", kind: " ++ e.kind.name ++ ", message: " ++
      Text.quote t ++ " \x7d"
  | .tls f => "Custom \x7b kind: " ++ e.kind.name ++ ", error: " ++ Text.quote f.message ++ " \x7d"

/-- What the error says about certificates, when it is a failed TLS handshake. -/
def tlsFailure? (e : IoError) : Option TlsFailure :=
  match e.detail with
  | .tls f => f.failure?
  | _ => none

/-- A system error. -/
def system (kind : IoKind) (code : Nat) (text : String) : IoError := ⟨kind, .system code text⟩

/-- The system's "No such file or directory". -/
def noSuchFile : IoError := system .notFound 2 "No such file or directory"

/-- The system's "File exists". -/
def fileExists : IoError := system .alreadyExists 17 "File exists"

/-- The system's "Not a directory". -/
def notDirectory : IoError := system .notADirectory 20 "Not a directory"

/-- The system's "Is a directory". -/
def isDirectory : IoError := system .isADirectory 21 "Is a directory"

/-- The system's "File name too long". -/
def nameTooLong : IoError := system .invalidFilename 36 "File name too long"

/-- The system's "Directory not empty". -/
def directoryNotEmpty : IoError := system .directoryNotEmpty 39 "Directory not empty"

/-- The system's "Address already in use". -/
def addressInUse : IoError := system .addrInUse 98 "Address already in use"

/-- The system's "Cannot assign requested address". -/
def addressNotAvailable : IoError := system .addrNotAvailable 99 "Cannot assign requested address"

/-- The system's "Operation not permitted". -/
def notPermitted : IoError := system .permissionDenied 1 "Operation not permitted"

end IoError

end RevSync
