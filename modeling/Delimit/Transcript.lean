import Delimit.Validator

/-!
# Transcripts

A transcript records the units of one source in input order.  A unit has its
position among them, the first and the last of the lines it was assembled from,
counted from 1, the verdict that ended it, and its logical text.
-/

namespace Delimit

/-- One unit, with the lines it was assembled from. -/
structure UnitRecord where
  /-- The position of the unit among the units of its source. -/
  index : Nat
  /-- The number of its first line. -/
  firstLine : Nat
  /-- The number of its last line. -/
  lastLine : Nat
  status : Verdict
  text : List Char
  deriving DecidableEq, Repr

namespace UnitRecord

def isError
    (unit : UnitRecord) :
    Bool :=
  unit.status != .complete

end UnitRecord

/-- The units of one source, in input order. -/
structure Transcript where
  source : List Char := "<stdin>".toList
  units : List UnitRecord := []
  deriving DecidableEq, Repr

namespace Transcript

def hasErrors
    (transcript : Transcript) :
    Bool :=
  transcript.units.any UnitRecord.isError

end Transcript

end Delimit
