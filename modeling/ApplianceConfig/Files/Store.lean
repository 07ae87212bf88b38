import ApplianceConfig.Appliance.Request
import ApplianceConfig.Fault
import ApplianceConfig.Files.Path

/-!
# A store of files

A store holds files and the directories that were made; the directories that a
file lies in, and those around the working directory, are there without being
made.  It answers the file effects of a session the way a file system does.  A
path is walked part by part, so every part but the last has to lead to a
directory that is there, also before two dots.  Reading or replacing a directory
is refused, and so is a file behind whose path a slash stands.  Names and paths
have a greatest length in bytes.
-/

set_option autoImplicit false

namespace ApplianceConfig

/-- A file with the names that lead to it from the root. -/
structure StoredFile where
  path : List String
  content : Bytes
  deriving DecidableEq

/-- Files and directories, and the directory in which paths start. -/
structure FileStore where
  workingDirectory : List String := []
  files : List StoredFile := []
  directories : List (List String) := []
  deriving DecidableEq

namespace FileStore

/-- The content of the file at a place. -/
def content? (store : FileStore) (place : List String) : Option Bytes :=
  (store.files.find? fun file => file.path == place).map StoredFile.content

/-- Whether a directory is at a place. -/
def isDirectory (store : FileStore) (place : List String) : Bool :=
  place.isPrefixOf store.workingDirectory
    || store.directories.any (fun directory => place.isPrefixOf directory)
    || store.files.any fun file => place.isPrefixOf file.path && file.path != place

/-! ## Walking a path -/

/-- The greatest number of bytes in a name. -/
def longestName : Nat := 255

/-- The greatest number of bytes in a path. -/
def longestPath : Nat := 4095

/-- Refuses a path that cannot be looked up. -/
def check (path : String) : Except FileFault Unit :=
  if path.toList.contains (Char.ofNat 0) then .error .invalidName
  else if path.isEmpty then .error .missing
  else if longestPath < path.utf8ByteSize then .error .nameTooLong
  else .ok ()

/-- The place that a part leads to from a directory. -/
def move (place : List String) (part : String) : Except FileFault (List String) :=
  if part = "." then .ok place
  else if part = ".." then .ok place.dropLast
  else if longestName < part.utf8ByteSize then .error .nameTooLong
  else .ok (place ++ [part])

/-- The directory that a part leads to from a directory. -/
def enter (store : FileStore) (place : List String) (part : String) :
    Except FileFault (List String) := do
  let place ← move place part
  if store.isDirectory place then pure place
  else if (store.content? place).isSome then throw .notDirectory
  else throw .missing

/-- The directory in which a path starts. -/
def start (store : FileStore) (path : String) : List String :=
  if Path.isAbsolute path then [] else store.workingDirectory

/-- The place that a path leads to; nothing needs to be there. -/
def place (store : FileStore) (path : String) : Except FileFault (List String) := do
  check path
  let parts := Path.parts path
  let directory ← parts.dropLast.foldlM store.enter (store.start path)
  parts.getLast?.toList.foldlM move directory

/-! ## Files -/

/-- Reads a file. -/
def read (store : FileStore) (path : String) : Except FileFault Bytes := do
  let place ← store.place path
  match store.content? place with
  | some content => if Path.endsInSlash path then throw .notDirectory else pure content
  | none => if store.isDirectory place then throw .isDirectory else throw .missing

/-- The files with one replaced or added. -/
def replace (place : List String) (content : Bytes) : List StoredFile → List StoredFile
  | [] => [⟨place, content⟩]
  | file :: rest =>
    if file.path = place then ⟨place, content⟩ :: rest else file :: replace place content rest

/-- Writes a file. -/
def write (store : FileStore) (path : String) (content : Bytes) :
    Except FileFault FileStore := do
  let place ← store.place path
  if Path.endsInSlash path || store.isDirectory place then throw .isDirectory
  pure { store with files := replace place content store.files }

/-! ## Directories -/

/-- Makes the directory that a part leads to, if it is missing, and goes there. -/
def enterMaking (here : FileStore × List String) (part : String) :
    Except FileFault (FileStore × List String) :=
  let (store, place) := here
  match store.enter place part with
  | .ok place => .ok (store, place)
  | .error .missing => do
    let place ← move place part
    pure ({ store with directories := store.directories ++ [place] }, place)
  | .error fault => .error fault

/-- Makes a directory and those it lies in; where a file is none can be made. -/
def makeDirectories (store : FileStore) (path : String) : Except FileFault FileStore := do
  check path
  match store.place path with
  | .ok place => if (store.content? place).isSome then throw .occupied
  | .error _ => pure ()
  let (store, _) ← (Path.parts path).foldlM enterMaking (store, store.start path)
  pure store

/-- Writes a file and makes the directory that it lies in. -/
def put (store : FileStore) (path : String) (content : Bytes) : Except FileFault FileStore := do
  let store ← match Path.directory? path with
    | some directory => store.makeDirectories directory
    | none => pure store
  store.write path content

end FileStore

end ApplianceConfig
