/-!
# Faults of documents

A document is refused when its characters, its tokens, its structure or its
values break the rules of the format.  A few values break down in another way:
a scalar that carries an explicit tag but is no value of that tag is not refused
as a document, and readers that report refused documents let it through.
-/

namespace Delimit.Yaml

/-- The ways in which the value of a scalar breaks down. -/
inductive Breakdown where
  /-- A number, a date or a code point lies outside its range or is not written as one. -/
  | badNumber
  /-- A word is not among the words of its tag. -/
  | unknownWord
  /-- A number has no digits at all. -/
  | noDigits
  /-- A text is not written as a point in time. -/
  | noTimestamp
  /-- A number does not fit the machine. -/
  | overflow
  /-- A text is needed where a mapping stands. -/
  | notText
  | tooDeep
  deriving DecidableEq, Repr

/-- The reasons for which a document is not read. -/
inductive Fault where
  /-- A character may not stand in a document. -/
  | unprintable
  /-- The text does not divide into tokens. -/
  | badToken
  /-- The tokens do not form one document. -/
  | badStructure
  /-- An alias or an anchor is misused. -/
  | badReference
  /-- A value does not fit its tag. -/
  | badValue
  /-- The value of a scalar breaks down. -/
  | breakdown (cause : Breakdown)
  deriving DecidableEq, Repr

namespace Fault

/-- The breakdown that a fault is, if it is one. -/
def breakdown? : Fault → Option Breakdown
  | breakdown cause => some cause
  | _ => none

end Fault

end Delimit.Yaml
