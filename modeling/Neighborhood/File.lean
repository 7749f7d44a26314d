import Neighborhood.Errno

/-!
# Text files

* `Files.text?` — the text of a file, or why there is none
* `Directory.files` — what a program reads that runs in a directory of given files
-/

namespace Neighborhood

/-! ## Reading -/

inductive FileError where
  | system (errno : Errno)
  | nulInName
  | notText
deriving DecidableEq

namespace FileError

def message : FileError → String
  | system errno => errno.message
  | nulInName => "file name contained an unexpected NUL byte"
  | notText => "stream did not contain valid UTF-8"

/-- There is no file of the name. -/
def isMissing : FileError → Bool
  | system errno => errno = Errno.notFound
  | _ => false

end FileError

/-- The bytes of the file at a path, or the reason of the system. -/
abbrev Files := String → Except Errno (List UInt8)

/-- A path with a zero character reaches no file; bytes that are no UTF-8 are no text. -/
def Files.text? (files : Files) (path : String) : Except FileError String :=
  if path.contains '\x00' then .error .nulInName
  else
    match files path with
    | .error errno => .error (.system errno)
    | .ok bytes =>
      match String.fromUTF8? ⟨bytes.toArray⟩ with
      | some text => .ok text
      | none => .error .notText

/-! ## Directories -/

/-- The current directory of a program: its files by name. -/
structure Directory where
  entries : List (String × List UInt8)

/-- What a path leads to: the root, a directory in it, the current directory, or a file. -/
inductive Location where
  | root
  | top (name : String)
  | current
  | file (bytes : List UInt8)

namespace Directory

/-- The most bytes of a path, and of one name in it. -/
def maxPath : Nat := 4095
def maxName : Nat := 255

/-- The directories that every root has. -/
def topNames : List String :=
  ["bin", "boot", "dev", "etc", "home", "lib", "media", "mnt", "opt", "proc", "root", "run", "sbin", "srv", "sys",
    "tmp", "usr", "var"]

/-- The current directory lies in the one for temporary files. -/
def parent : Location → Location
  | .current => .top "tmp"
  | _ => .root

/-- What a directory holds under a name; no more is known of the others than that `/dev/null` is empty. -/
def child? (d : Directory) (name : String) : Location → Option Location
  | .root => if topNames.contains name then some (.top name) else none
  | .top directory => if directory = "dev" ∧ name = "null" then some (.file []) else none
  | .current => (d.entries.lookup name).map .file
  | .file _ => none

/-- One part of a path leads on from a directory only; an empty one and a dot lead nowhere else. -/
def follow (d : Directory) (location : Location) (part : String) : Except Errno Location :=
  match location with
  | .file _ => .error Errno.notDirectory
  | _ =>
    if part = "" ∨ part = "." then .ok location
    else if part = ".." then .ok (parent location)
    else if maxName < part.utf8ByteSize then .error Errno.nameTooLong
    else
      match d.child? part location with
      | some next => .ok next
      | none => .error Errno.notFound

/-- A path is followed part by part, from the root or from the current directory. -/
def files (d : Directory) : Files := fun path =>
  if path.isEmpty then .error Errno.notFound
  else if maxPath < path.utf8ByteSize then .error Errno.nameTooLong
  else do
    let start := if path.startsWith "/" then Location.root else Location.current
    match ← (path.splitOn "/").foldlM d.follow start with
    | .file bytes => pure bytes
    | _ => throw Errno.isDirectory

end Directory

end Neighborhood
