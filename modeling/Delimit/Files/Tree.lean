import Delimit.Files.Fault
import Delimit.Text.Utf8

/-!
# Trees of files

A tree holds files and directories under their names, and a directory in which
paths begin that have no root.  A path is followed name by name; two dots lead to
the directory above, and the directory above the root is the root itself.
-/

namespace Delimit.Files

/-- The place of a file or a directory: the names from the root on. -/
abbrev Location := List (List Char)

structure Tree where
  files : List (Location × List UInt8)
  directories : List Location
  /-- Where paths without a root begin. -/
  working : Location

/-- What is found at a place. -/
inductive Kind where
  | file (bytes : List UInt8)
  | directory
  deriving DecidableEq, Repr

namespace Tree

/-- The greatest number of bytes of a name. -/
def longestName : Nat := 255

/-- The number of bytes that a path has to stay below. -/
def longestPath : Nat := 4096

def isDirectory
    (tree : Tree)
    (location : Location) :
    Bool :=
  location.isPrefixOf tree.working ||
    tree.directories.any location.isPrefixOf ||
    tree.files.any fun file =>
      location.isPrefixOf file.1 && location.length < file.1.length

def kind?
    (tree : Tree)
    (location : Location) :
    Option Kind :=
  match tree.files.lookup location with
  | some bytes => some (.file bytes)
  | none => if tree.isDirectory location then some .directory else none

def fits
    (name : List Char) :
    Bool :=
  (Text.encodeUtf8 name).length ≤ longestName

/-- The place that names lead to from a place; all but the last one have to exist. -/
def follow (tree : Tree) : Location → List (List Char) → Except Reason Location
  | location, [] => .ok location
  | location, name :: rest =>
      match tree.kind? location with
      | none => .error .notFound
      | some (.file _) => .error .notDirectory
      | some .directory =>
          if name == ['.', '.'] then
            follow tree location.dropLast rest
          else if fits name then
            follow tree (location ++ [name]) rest
          else
            .error .nameTooLong

/-- The place that a path leads to, which need not exist. -/
def locate
    (tree : Tree)
    (path : Path) :
    Except OpenFault Location :=
  if path.text.contains '\x00' then
    .error .nulInPath
  else if longestPath ≤ (Text.encodeUtf8 path.text).length then
    .error (.refused .nameTooLong)
  else
    (tree.follow (if path.isAbsolute then [] else tree.working) path.names).mapError .refused

def find
    (tree : Tree)
    (path : Path) :
    Except OpenFault Kind :=
  match tree.locate path with
  | .error fault => .error fault
  | .ok location =>
      match tree.kind? location with
      | some kind => .ok kind
      | none => .error (.refused .notFound)

/-- The bytes of the file that a path leads to. -/
def bytes
    (tree : Tree)
    (path : Path) :
    Except OpenFault (List UInt8) :=
  match tree.find path with
  | .error fault => .error fault
  | .ok .directory => .error (.refused .isDirectory)
  | .ok (.file bytes) => .ok bytes

def isFile
    (tree : Tree)
    (path : Path) :
    Except Reason Bool :=
  match tree.find path with
  | .ok (.file _) => .ok true
  | .ok .directory => .ok false
  | .error .nulInPath => .ok false
  | .error (.refused .notFound) => .ok false
  | .error (.refused .notDirectory) => .ok false
  | .error (.refused reason) => .error reason

/-- The place of the file that would be written at a path. -/
def writeTarget
    (tree : Tree)
    (path : Path) :
    Except OpenFault Location :=
  match tree.locate path with
  | .error fault => .error fault
  | .ok location =>
      match tree.kind? location with
      | some .directory => .error (.refused .isDirectory)
      | _ => .ok location

/-- What a program can learn about the files of a tree. -/
def system
    (tree : Tree) :
    System where
  bytes := tree.bytes
  isFile := tree.isFile
  writeFault? := fun path =>
    match tree.writeTarget path with
    | .ok _ => none
    | .error fault => some fault

/-- The tree in which a file has the given bytes. -/
def write
    (tree : Tree)
    (location : Location)
    (bytes : List UInt8) :
    Tree :=
  { tree with
    files := (location, bytes) :: tree.files.filter fun file => file.1 != location }

end Tree

namespace System

/-- The text of a file, as its bytes encode it. -/
def readText
    (system : System)
    (path : Path) :
    Except ReadFault (List Char) :=
  match system.bytes path with
  | .error fault => .error (.unopened fault)
  | .ok bytes =>
      match Text.decodeUtf8? bytes with
      | none => .error .undecodable
      | some text => .ok text

end System

end Delimit.Files
