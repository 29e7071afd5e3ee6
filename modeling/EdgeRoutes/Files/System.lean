import EdgeRoutes.Files.Encoding
import EdgeRoutes.Files.Path

/-! A file system: files and directories by their places, and what reading and writing do to it. -/

namespace EdgeRoutes.Files

/-- The names that lead from the root to a file. -/
abbrev Place := List String

/-- What is found at a place. -/
inductive Entry where
  | file (bytes : Bytes)
  | directory
  deriving DecidableEq

/-- Files and directories, and the working directory, which exists with all that lead to it. -/
structure FileSystem where
  working : Place
  entries : List (Place × Entry) := []

namespace FileSystem

def entry? (fs : FileSystem) (place : Place) : Option Entry :=
  if place.isPrefixOf fs.working then some .directory
  else (fs.entries.find? (·.1 == place)).map (·.2)

def put (fs : FileSystem) (place : Place) (entry : Entry) : FileSystem :=
  let rest := fs.entries.filter (·.1 != place)
  { fs with entries := rest ++ [(place, entry)] }

/-- Follows names from a directory to the place of the last one, which need not exist. -/
def follow (fs : FileSystem) (place : Place) : List String → Except FileRefusal Place
  | [] => .ok place
  | name :: names =>
    match fs.entry? place with
    | none => .error .notFound
    | some (.file _) => .error .notDirectory
    | some .directory =>
      fs.follow (if name == ".." then place.dropLast else place ++ [name]) names

def locate (fs : FileSystem) (p : Path) : Except FileRefusal Place :=
  fs.follow (if p.root.isEmpty then fs.working else []) p.names

/-- What a path leads to. -/
def lookup (fs : FileSystem) (p : Path) : Option Entry :=
  match fs.locate p with
  | .ok place => fs.entry? place
  | .error _ => none

def read (fs : FileSystem) (p : Path) : Except FileError Bytes :=
  let found : Except FileRefusal Bytes := do
    match fs.entry? (← fs.locate p) with
    | none => .error .notFound
    | some .directory => .error .isDirectory
    | some (.file bytes) => .ok bytes
  found.mapError (⟨·, p.text⟩)

/-- Makes `change` of the bytes of the file at a path. A file that is not there counts as empty, as long as its
directory is there. -/
def modify (fs : FileSystem) (p : Path) (change : Bytes → Bytes) : Except FileError FileSystem :=
  let changed : Except FileRefusal FileSystem := do
    let place ← fs.locate p
    match fs.entry? place with
    | some .directory => .error .isDirectory
    | some (.file bytes) => .ok (fs.put place (.file (change bytes)))
    | none => .ok (fs.put place (.file (change [])))
  changed.mapError (⟨·, p.text⟩)

def write (fs : FileSystem) (p : Path) (bytes : Bytes) : Except FileError FileSystem :=
  fs.modify p fun _ => bytes

def append (fs : FileSystem) (p : Path) (bytes : Bytes) : Except FileError FileSystem :=
  fs.modify p (· ++ bytes)

def makeDirectory (fs : FileSystem) (p : Path) : Except FileError FileSystem :=
  let made : Except FileRefusal FileSystem := do
    let place ← fs.locate p
    match fs.entry? place with
    | some _ => .error .exists
    | none => .ok (fs.put place .directory)
  made.mapError (⟨·, p.text⟩)

/-- The files below the working directory, by their paths from there. -/
def listing (fs : FileSystem) : List (String × Bytes) :=
  fs.entries.filterMap fun
    | (place, .file bytes) =>
      if fs.working.isPrefixOf place then
        some (Text.joined "/" (place.drop fs.working.length), bytes)
      else none
    | (_, .directory) => none

end FileSystem

end EdgeRoutes.Files
