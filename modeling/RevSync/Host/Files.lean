import RevSync.Host.IoError
import RevSync.Data.TextMap

/-!
# Files

A directory tree held in memory: every entry is a directory or a file with its bytes, named by
its path relative to the tree's root (components joined by `/`). The root always exists and is a
directory. Operations fail as a file system does: writing needs an existing parent directory,
a file cannot be created where a directory is, a name cannot be longer than 255 bytes, and so
on, each with the system's error.
-/

namespace RevSync

/-- One entry of a directory tree. -/
inductive FileNode where
  | directory
  | file (data : ByteArray)
  deriving Inhabited

/-- A directory tree. -/
structure Files where
  entries : TextMap FileNode := []
  deriving Inhabited

namespace Files

/-- The components of a path, without empty ones and `.`. -/
def components (path : String) : List String :=
  (path.splitOn "/").filter fun c => c != "" && c != "."

/-- A path in normal form. -/
def normalize (path : String) : String := "/".intercalate (components path)

/-- The path of a child. -/
def join (dir name : String) : String := normalize (dir ++ "/" ++ name)

/-- The parent of a path; the root is its own parent. -/
def parent (path : String) : String := "/".intercalate (components path).dropLast

/-- The last component of a path. -/
def fileName? (path : String) : Option String := (components path).getLast?

/-- The longest name a directory can hold, in bytes. -/
def nameMax : Nat := 255

/-- Whether every component of a path is a name a directory can hold. -/
def fits (path : String) : Bool := (components path).all fun c => c.utf8ByteSize ≤ nameMax

/-- The entry at a path. -/
def node? (fs : Files) (path : String) : Option FileNode :=
  let p := normalize path
  if p.isEmpty then some .directory else fs.entries.get? p

/-- Whether something is at a path. -/
def exists? (fs : Files) (path : String) : Bool := (fs.node? path).isSome

/-- Whether a directory is at a path. -/
def isDirectory (fs : Files) (path : String) : Bool :=
  match fs.node? path with
  | some .directory => true
  | _ => false

/-- The error for a path with nothing at it: the first of the directories leading to it that is
missing or a file decides, with "name too long" where its name cannot be held; otherwise the path
is missing, or its own name is too long. -/
def parentError (fs : Files) (path : String) : IoError :=
  let dirs := (components path).dropLast
  let prefixes := (List.range dirs.length).map fun n => "/".intercalate (dirs.take (n + 1))
  let blocked := prefixes.find? fun p => !fs.isDirectory p
  match blocked with
  | some p =>
    if !fits p then IoError.nameTooLong
    else if fs.exists? p then IoError.notDirectory else IoError.noSuchFile
  | none => if fits path then IoError.noSuchFile else IoError.nameTooLong

/-- Creates a directory and all missing parents. -/
def createDirAll (fs : Files) (path : String) : Except IoError Files := do
  let step (acc : Files × String) (c : String) : Except IoError (Files × String) :=
    let (fs, dir) := acc
    let p := join dir c
    match fs.node? p with
    | some .directory => .ok (fs, p)
    | some (.file _) =>
      .error (if p == normalize path then IoError.fileExists else IoError.notDirectory)
    | none =>
      if c.utf8ByteSize ≤ nameMax then .ok ({ fs with entries := fs.entries.insert p .directory }, p)
      else .error IoError.nameTooLong
  let (fs, _) ← (components path).foldlM step (fs, "")
  pure fs

/-- The bytes of a file. -/
def read (fs : Files) (path : String) : Except IoError ByteArray :=
  match fs.node? path with
  | some (.file data) => .ok data
  | some .directory => .error IoError.isDirectory
  | none => .error (fs.parentError path)

/-- Creates or replaces a file. -/
def write (fs : Files) (path : String) (data : ByteArray) : Except IoError Files :=
  if !fs.isDirectory (parent path) then .error (fs.parentError path)
  else
    match fs.node? path with
    | some .directory => .error IoError.isDirectory
    | _ =>
      if fits path then .ok { fs with entries := fs.entries.insert (normalize path) (.file data) }
      else .error IoError.nameTooLong

/-- Creates an empty file unless one is there already. -/
def touch (fs : Files) (path : String) : Except IoError Files :=
  match fs.node? path with
  | some (.file _) => .ok fs
  | _ => fs.write path ByteArray.empty

/-- Whether `p` lies inside the directory `dir` (or is it). -/
def within (dir p : String) : Bool := p == dir || p.startsWith (dir ++ "/")

/-- Moves a file over another path. -/
def rename (fs : Files) (source target : String) : Except IoError Files := do
  let data ← match fs.node? source with
    | some (.file data) => pure data
    | some .directory => throw IoError.isDirectory
    | none => throw (fs.parentError source)
  let fs ← fs.write target data
  pure { fs with entries := fs.entries.erase (normalize source) }

/-- Removes a directory and everything in it. -/
def removeDirAll (fs : Files) (path : String) : Except IoError Files :=
  let p := normalize path
  match fs.node? p with
  | some .directory => .ok { fs with entries := fs.entries.filter fun (k, _) => !within p k }
  | some (.file _) => .error IoError.notDirectory
  | none => .error (fs.parentError p)

/-- Removes a file. -/
def removeFile (fs : Files) (path : String) : Except IoError Files :=
  match fs.node? path with
  | some (.file _) => .ok { fs with entries := fs.entries.erase (normalize path) }
  | some .directory => .error IoError.isDirectory
  | none => .error (fs.parentError path)

/-- The names in a directory, sorted; a listing never names the parent directory `..`. -/
def list (fs : Files) (path : String) : Except IoError (List String) :=
  let p := normalize path
  if !fs.isDirectory p then
    match fs.node? p with
    | some _ => .error IoError.notDirectory
    | none => .error (fs.parentError p)
  else
    .ok (((fs.entries.keys.filter fun k => parent k == p && k != p).filterMap fileName?).filter
      (· != ".."))

end Files

end RevSync
