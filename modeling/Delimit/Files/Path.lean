/-!
# Paths

A path is a root and the names after it.  Empty names and single dots are left
out, so a path has one text; two dots are kept, since they may lead through a
link.  A path with exactly two slashes in front keeps both.
-/

namespace Delimit.Files

structure Path where
  /-- The slashes in front: none, one, or two. -/
  root : List Char
  names : List (List Char)
  deriving DecidableEq, Repr

namespace Path

/-- The slashes in front of a text, as far as they matter. -/
def rootOf : List Char → List Char
  | '/' :: '/' :: '/' :: _ => ['/']
  | '/' :: '/' :: _ => ['/', '/']
  | '/' :: _ => ['/']
  | _ => []

def ofText
    (text : List Char) :
    Path :=
  { root := rootOf text
    names := (text.splitOn '/').filter fun name => name != [] && name != ['.'] }

def text
    (path : Path) :
    List Char :=
  if path.root.isEmpty && path.names.isEmpty then
    ['.']
  else
    path.root ++ ['/'].intercalate path.names

/-- The path of a name in a directory. -/
def child
    (path : Path)
    (name : List Char) :
    Path :=
  { path with names := path.names ++ [name] }

/-- Whether a path does not depend on the working directory. -/
def isAbsolute
    (path : Path) :
    Bool :=
  !path.root.isEmpty

end Path

end Delimit.Files
