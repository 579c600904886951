import Bindery.Wire.Format

/-!
# File systems

A file system as a value: which places hold a file or a directory, and where relative paths start.
Paths are followed component by component, each from a directory.

A place may refuse to be read or written, whatever the reason: want of permission, want of room.
Looking a name up in a directory reads the directory. A refusal comes as the place is opened, so a
write that fails changes nothing.
-/

namespace Bindery

/-- Why a file could not be read or written. -/
inductive FileError where
  | notFound
  | permissionDenied
  | notDirectory
  | isDirectory
  | noSpace
  /-- The path or one of its components is longer than the system takes. -/
  | nameTooLong
  /-- The path holds the character NUL, which the system takes for its end. -/
  | nulInPath
  | notText
  /-- Any other reason, in the system's words. -/
  | other (text : String)
  deriving DecidableEq, Repr

def FileError.message : FileError → String
  | .notFound => "No such file or directory (os error 2)"
  | .permissionDenied => "Permission denied (os error 13)"
  | .notDirectory => "Not a directory (os error 20)"
  | .isDirectory => "Is a directory (os error 21)"
  | .noSpace => "No space left on device (os error 28)"
  | .nameTooLong => "File name too long (os error 36)"
  | .nulInPath => "file name contained an unexpected NUL byte"
  | .notText => "stream did not contain valid UTF-8"
  | .other text => text

/-- A place in a file system: the names on the way down from the root. -/
abbrev Location := List String

inductive Entry where
  | file (content : Bytes)
  | directory
  deriving DecidableEq, Repr

inductive Access where
  | reading
  | writing
  deriving DecidableEq, Repr

/-- The places that hold something, the current directory, and what is refused where. The root is
always a directory. -/
structure FileSystem where
  entries : List (Location × Entry) := []
  current : Location := []
  refusals : List ((Location × Access) × FileError) := []
  deriving Repr

namespace FileSystem

def entry? (fs : FileSystem) (location : Location) : Option Entry :=
  if location.isEmpty then some .directory else fs.entries.lookup location

def set (fs : FileSystem) (location : Location) (entry : Entry) : FileSystem :=
  { fs with entries := (location, entry) :: fs.entries.filter (·.1 != location) }

/-- The file system with a directory at a place, and on the way to it. -/
def addDirectory (fs : FileSystem) (location : Location) : FileSystem :=
  (List.range location.length).foldl (fun fs n => fs.set (location.take (n + 1)) .directory) fs

/-- The file system with a file at a place, and directories on the way to it. -/
def addFile (fs : FileSystem) (location : Location) (content : Bytes) : FileSystem :=
  (fs.addDirectory location.dropLast).set location (.file content)

/-- Fails if the place refuses the access. -/
def permit (fs : FileSystem) (access : Access) (location : Location) : Except FileError Unit :=
  match fs.refusals.lookup (location, access) with
  | some cause => .error cause
  | none => .ok ()

/-! ## Paths -/

/-- The components of a path: all that stands between its slashes. -/
def components (path : String) : List String :=
  (path.toList.splitOn '/').map String.ofList

/-- Where the components of a path start to be followed. -/
def origin (fs : FileSystem) (path : String) : Location :=
  if path.toList.head? = some '/' then [] else fs.current

/-- The most bytes a component can have. -/
def maxNameSize : Nat := 255

/-- The most bytes a path can have. -/
def maxPathSize : Nat := 4095

/-- Refuses a path that the system does not look at. -/
def checkPath (path : String) : Except FileError Unit := do
  if path.toList.contains '\x00' then throw .nulInPath
  if path.isEmpty then throw .notFound
  if path.utf8ByteSize > maxPathSize then throw .nameTooLong

/-- Follows components from a place. Each is looked up in a directory, even those that lead
nowhere else. -/
def follow (fs : FileSystem) (location : Location) : List String → Except FileError Location
  | [] => .ok location
  | name :: names =>
    match fs.entry? location with
    | none => .error .notFound
    | some (.file _) => .error .notDirectory
    | some .directory => do
      fs.permit .reading location
      if name.utf8ByteSize > maxNameSize then .error .nameTooLong
      else if name = "" || name = "." then fs.follow location names
      else if name = ".." then fs.follow location.dropLast names
      else fs.follow (location ++ [name]) names

/-- Where a path leads, whether or not something is there. -/
def locate (fs : FileSystem) (path : String) : Except FileError Location := do
  checkPath path
  fs.follow (fs.origin path) (components path)

/-! ## Reading -/

def readBytes (fs : FileSystem) (path : String) : Except FileError Bytes := do
  match fs.entry? (← fs.locate path) with
  | none => throw .notFound
  | some .directory => throw .isDirectory
  | some (.file content) => return content

/-- The content of a file that is text. -/
def read (fs : FileSystem) (path : String) : Except FileError String := do
  match Wire.ofUtf8? (← fs.readBytes path) with
  | some text => return text
  | none => throw .notText

/-- Opens a file and reads it. What is not there refuses nothing. -/
def fetch (fs : FileSystem) (path : String) : Except FileError String := do
  let location ← fs.locate path
  if (fs.entry? location).isSome then fs.permit .reading location
  fs.read path

/-! ## Writing -/

/-- The place a file can be written at. A path that ends in a slash, in `.` or in `..` is one of a
directory. -/
def target (fs : FileSystem) (path : String) : Except FileError Location := do
  checkPath path
  let all := components path
  let named := (all.reverse.dropWhile (· == "")).reverse
  match named.getLast? with
  | none => throw .isDirectory
  | some last =>
    -- A trailing "." is looked up in the directory, so that the directory has to exist.
    let directory ← fs.follow (fs.origin path) (named.dropLast ++ ["."])
    if last = "." || last = ".." || named.length < all.length then throw .isDirectory
    if last.utf8ByteSize > maxNameSize then throw .nameTooLong
    let location := directory ++ [last]
    if fs.entry? location = some .directory then throw .isDirectory
    fs.permit .writing location
    return location

/-- Writes a text to a file, in place of what it held. -/
def write (fs : FileSystem) (path text : String) : Except FileError FileSystem := do
  return fs.set (← fs.target path) (.file (Wire.utf8 text))

/-- The files that differ from those of an earlier file system, with their content. -/
def changedSince (fs before : FileSystem) : List (Location × Bytes) :=
  fs.entries.filterMap fun (location, entry) =>
    match entry with
    | .directory => none
    | .file content =>
      if before.entry? location = some entry then none else some (location, content)

end FileSystem

end Bindery
