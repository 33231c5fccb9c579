import Delimit.Files.Path
import Delimit.Text.Quoted

/-!
# Faults of files

The system refuses a path for a reason that has a number and a text.  Besides,
a path with a NUL character is no path at all, and bytes that are not UTF-8 are no
text.
-/

namespace Delimit.Files

/-- The reasons for which the system refuses a path. -/
inductive Reason where
  | notFound
  /-- A name on the way belongs to no directory. -/
  | notDirectory
  | isDirectory
  /-- A name or the whole path is too long. -/
  | nameTooLong
  deriving DecidableEq, Repr

namespace Reason

def number : Reason → Nat
  | notFound => 2
  | notDirectory => 20
  | isDirectory => 21
  | nameTooLong => 36

def words : Reason → String
  | notFound => "No such file or directory"
  | notDirectory => "Not a directory"
  | isDirectory => "Is a directory"
  | nameTooLong => "File name too long"

/-- The words for the refusal of a path. -/
def message
    (reason : Reason)
    (path : Path) :
    String :=
  "[Errno " ++ toString reason.number ++ "] " ++ reason.words ++ ": " ++
    String.ofList (Text.quoted path.text)

end Reason

/-- The ways in which a file cannot be opened. -/
inductive OpenFault where
  | refused (reason : Reason)
  | nulInPath
  deriving DecidableEq, Repr

/-- The ways in which a file cannot be read as a text. -/
inductive ReadFault where
  | unopened (fault : OpenFault)
  | undecodable
  deriving DecidableEq, Repr

/-- What a program can learn about files without changing any. -/
structure System where
  bytes : Path → Except OpenFault (List UInt8)
  /-- Whether a path leads to a file; only some refusals mean that it does not. -/
  isFile : Path → Except Reason Bool
  /-- The reason for which a file cannot be written, if there is one. -/
  writeFault? : Path → Option OpenFault

end Delimit.Files
