import Positioning.Text.Pieces

/-!
# Files

The files that a program can reach from its working directory, and what comes of reading one. The
working directory holds files and empty directories by name. What lies outside of it is directories:
the root with those that every system has, and others about whose content nothing is known, so that
nothing is found there but the empty device file.

## Main definitions

- `ReadFault` is the cause for which a file cannot be read.
- `FileReader` is any way to read files by path.
- `FileTree.walk` follows the components of a path.
- `FileTree.read` gives the bytes of a file, or the cause for which there are none.
-/

namespace Positioning

/-- The names of the causes that a file tree has for a file that cannot be read. -/
def ReadFault.treeNames : List String :=
  ["NotFound", "IsADirectory", "NotADirectory", "InvalidFilename", "InvalidInput"]

/-- The causes for which a file cannot be read: those of a file tree, and whatever else a system
has, such as a permission that is denied. -/
inductive ReadFault where
  | notFound
  | isADirectory
  | notADirectory
  | invalidFilename
  | invalidInput
  | other (kind : String) (h : kind ∉ ReadFault.treeNames)
deriving DecidableEq

namespace ReadFault

/-- The name of a cause. -/
def name : ReadFault → String
  | notFound => "NotFound"
  | isADirectory => "IsADirectory"
  | notADirectory => "NotADirectory"
  | invalidFilename => "InvalidFilename"
  | invalidInput => "InvalidInput"
  | other kind _ => kind

end ReadFault

/-- Reads the file with a path. -/
abbrev FileReader :=
  String → Except ReadFault ByteArray

/-- What a name in the working directory stands for. -/
inductive FileNode where
  | file (content : ByteArray)
  | directory

/-- The working directory, by name. -/
structure FileTree where
  entries : List (String × FileNode)

/-- Where a path has led so far. -/
inductive Place where
  | root
  | devices
  | system
  | outside
  | working
  | below
  | file (content : ByteArray)

namespace FileTree

/-- The longest name that a file may have, in bytes. -/
def maxName : Nat :=
  255

/-- The length in bytes from which on a path is too long. -/
def pathLimit : Nat :=
  4096

/-- The directories that the root holds on every system, besides the one of the devices. -/
def systemNames : List String :=
  ["bin", "boot", "etc", "home", "lib", "media", "mnt", "opt", "proc", "root", "run", "sbin", "srv",
    "sys", "tmp", "usr", "var"]

/-- The device file that is always empty. -/
def emptyDevice : String :=
  "null"

/-- The place of a name in a directory. -/
def lookup (t : FileTree) (place : Place) (name : String) : Except ReadFault Place :=
  match place with
  | .working =>
    match t.entries.lookup name with
    | some (.file content) => .ok (.file content)
    | some .directory => .ok .below
    | none => .error .notFound
  | .root =>
    if name = "dev" then .ok .devices
    else if name ∈ systemNames then .ok .system
    else .error .notFound
  | .devices => if name = emptyDevice then .ok (.file .empty) else .error .notFound
  | _ => .error .notFound

/-- The directory that holds a place. -/
def parent : Place → Place
  | .below => .working
  | .root | .devices | .system => .root
  | _ => .outside

/-- Follows one component of a path. Nothing lies below a file. -/
def step (t : FileTree) (place : Place) (component : String) : Except ReadFault Place :=
  match place with
  | .file _ => .error .notADirectory
  | _ =>
    if component = "" || component = "." then .ok place
    else if component = ".." then .ok (parent place)
    else if maxName < component.utf8ByteSize then .error .invalidFilename
    else t.lookup place component

/-- Follows the components of a path. -/
def walk (t : FileTree) : Place → List String → Except ReadFault Place
  | place, [] => .ok place
  | place, component :: rest =>
    match t.step place component with
    | .ok next => t.walk next rest
    | .error e => .error e

/-- The components of a path, an empty one for a slash at either end. -/
def components (path : String) : List String :=
  (Text.pieces '/' path.toList).map String.ofList

/-- Reads the file that a path leads to. -/
def read (t : FileTree) : FileReader := fun path =>
  if '\x00' ∈ path.toList then .error .invalidInput
  else if path = "" then .error .notFound
  else if pathLimit ≤ path.utf8ByteSize then .error .invalidFilename
  else
    let start := if path.toList.head? = some '/' then Place.root else .working
    match t.walk start (components path) with
    | .ok (.file content) => .ok content
    | .ok _ => .error .isADirectory
    | .error e => .error e

end FileTree

end Positioning
