/-!
# File trees

A snapshot of a file system: the files and directories below the root, and the directory that
relative paths start from. Names are followed one by one, as an operating system does: a missing
directory, a file in place of a directory and a directory in place of a file are different faults.
-/

namespace DashboardGenerator

/-- A file with its bytes, or a directory. -/
inductive FileEntry where
  | file (content : List UInt8)
  | directory
deriving Repr, DecidableEq

/-- A file system. Every entry is known by the names that lead to it from the root. -/
structure Files where
  entries : List (List String × FileEntry)
  current : List String
deriving Repr, DecidableEq

/-- Why a file cannot be read or written. -/
inductive FileFault where
  /-- The operating system refuses, with a description and a number. -/
  | refused (description : String) (code : Nat)
  | zeroInPath
  | notText
deriving Repr, DecidableEq

namespace FileFault

/-- Nothing is there. -/
def notFound : FileFault := .refused "No such file or directory" 2

/-- A file stands where a directory should. -/
def notDirectory : FileFault := .refused "Not a directory" 20

/-- A directory stands where a file should. -/
def isDirectory : FileFault := .refused "Is a directory" 21

/-- A name or a path exceeds what the operating system allows. -/
def nameTooLong : FileFault := .refused "File name too long" 36

/-- The sentence that reports the fault. -/
def message : FileFault → String
  | .refused description code => s!"{description} (os error {code})"
  | .zeroInPath => "file name contained an unexpected NUL byte"
  | .notText => "stream did not contain valid UTF-8"

end FileFault

namespace Files

/-- The longest name of one entry, in bytes. -/
def nameLimit : Nat := 255

/-- The longest path, in bytes. -/
def pathLimit : Nat := 4095

/-- What stands at a place. The root is always a directory. -/
def entry? (files : Files) : List String → Option FileEntry
  | [] => some .directory
  | place => files.entries.lookup place

/-- Go from a place to one of its entries, to itself or to the directory above it. -/
def enter (files : Files) (place : List String) (name : String) :
    Except FileFault (List String) :=
  match files.entry? place with
  | none => .error .notFound
  | some (.file _) => .error .notDirectory
  | some .directory =>
    if name = "." then .ok place
    else if name = ".." then .ok place.dropLast
    else if nameLimit < name.utf8ByteSize then .error .nameTooLong
    else .ok (place ++ [name])

/-- Follow names from a place. -/
def follow (files : Files) (place : List String) (names : List String) :
    Except FileFault (List String) :=
  names.foldlM files.enter place

/-- The names of a path, without the empty ones between slashes. -/
def pathNames (path : String) : List String :=
  ((path.toList.splitOn '/').map String.ofList).filter (· != "")

/-- The path ends with a slash. -/
def endsWithSlash (path : String) : Bool :=
  path.toList.getLast? == some '/'

/-- The place that a path starts from. -/
def startOf (files : Files) (path : String) : List String :=
  if path.toList.head? = some '/' then [] else files.current

/-- Refuse a path that no operating system would follow. -/
def checkPath (path : String) : Except FileFault Unit :=
  if path.toList.contains '\x00' then .error .zeroInPath
  else if path.isEmpty then .error .notFound
  else if pathLimit < path.utf8ByteSize then .error .nameTooLong
  else .ok ()

/-- The place that a path leads to, whether or not something stands there. -/
def locate (files : Files) (path : String) : Except FileFault (List String) := do
  checkPath path
  let names := if endsWithSlash path then pathNames path ++ ["."] else pathNames path
  files.follow (files.startOf path) names

/-- The path leads to a file. -/
def isFile (files : Files) (path : String) : Bool :=
  match files.locate path with
  | .ok place =>
    match files.entry? place with
    | some (.file _) => true
    | some .directory | none => false
  | .error _ => false

/-- The bytes of the file at a path. -/
def read (files : Files) (path : String) : Except FileFault (List UInt8) := do
  let place ← files.locate path
  match files.entry? place with
  | some (.file content) => .ok content
  | some .directory => .error .isDirectory
  | none => .error .notFound

/-- Put a file at a place. -/
def put (files : Files) (place : List String) (content : List UInt8) : Files :=
  { files with
    entries := (place, .file content) :: files.entries.filter fun entry => entry.1 != place }

/-- The place that a file written at a path is put, if one may be put there. -/
def locateNew (files : Files) (path : String) : Except FileFault (List String) := do
  checkPath path
  match (pathNames path).getLast? with
  | none => .error .isDirectory
  | some name => do
    let parent ← files.follow (files.startOf path) (pathNames path).dropLast
    let place ← files.enter parent name
    if endsWithSlash path ∨ name = "." ∨ name = ".." then .error .isDirectory
    else
      match files.entry? place with
      | some .directory => .error .isDirectory
      | some (.file _) | none => .ok place

/-- The files after bytes are written at a path. -/
def write (files : Files) (path : String) (content : List UInt8) : Except FileFault Files := do
  let place ← files.locateNew path
  return files.put place content

end Files

end DashboardGenerator
