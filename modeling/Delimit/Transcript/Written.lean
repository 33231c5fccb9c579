import Delimit.Transcript.Schema
import Delimit.Yaml.Written

/-!
# The written form of transcripts

A transcript is written as a document in block style: first the source, then the
units as a list whose items are not indented, each field on a line of its own.  A
number that is too long to be shown cannot be written.
-/

namespace Delimit.Transcript

/-- A field and a text as its value, the field's name beginning at a column. -/
def writtenText
    (column : Nat)
    (name : String)
    (text : List Char) :
    List Char :=
  let name := name.toList ++ [':']
  name ++ Yaml.Written.value (column + 2) (column + name.length) text ++ ['\n']

/-- A field and a number as its value. -/
def writtenNumber
    (name : String)
    (number : Nat) :
    List Char :=
  name.toList ++ ':' :: ' ' :: Nat.toDigits 10 number ++ ['\n']

def writtenUnit
    (unit : UnitRecord) :
    List Char :=
  "- ".toList ++ writtenNumber "index" unit.index ++
    "  ".toList ++ writtenNumber "first-line" unit.firstLine ++
    "  ".toList ++ writtenNumber "last-line" unit.lastLine ++
    "  ".toList ++ writtenText 2 "status" unit.status.label.toList ++
    "  ".toList ++ writtenText 2 "text" unit.text

def written
    (transcript : Transcript) :
    List Char :=
  writtenText 0 "source" transcript.source ++
    if transcript.units.isEmpty then
      "units: []\n".toList
    else
      "units:\n".toList ++ transcript.units.flatMap writtenUnit

/-- Whether a unit has a number that is too long to be written. -/
def hasLongNumberIn
    (unit : UnitRecord) :
    Bool :=
  [unit.index, unit.firstLine, unit.lastLine].any fun number =>
    (Yaml.Scalar.int number).isTooLong

/-- Whether a transcript has a number that is too long to be written. -/
def hasLongNumber
    (transcript : Transcript) :
    Bool :=
  transcript.units.any hasLongNumberIn

end Delimit.Transcript
