import Delimit.Calendar
import Delimit.Number.Decimal
import Delimit.Text.Digit
import Delimit.Text.Quoted

/-!
# Scalar values

The values that are no collections.  They are also the keys of mappings and the
elements of sets, where truth values, whole numbers and binary numbers are equal
when they are equal as numbers, truth counting as one and falsehood as zero.
-/

namespace Delimit.Yaml

/-- A value that is no collection. -/
inductive Scalar where
  | null
  | bool (value : Bool)
  | int (value : Int)
  | real (value : Number.Binary64)
  | text (value : List Char)
  | bytes (value : List UInt8)
  | date (value : Date)
  /-- A time of day on a date. -/
  | moment (value : Moment)
  deriving DecidableEq, Repr

namespace Scalar

/-- The whole number that a scalar equals as a number, if there is one. -/
def wholeNumber? : Scalar → Option Int
  | bool value => some (if value then 1 else 0)
  | int value => some value
  | real value => value.toInt?
  | _ => none

/--
Whether two scalars are the same key.  Keys are compared by their values and nothing else:
a number that is none is the same key as itself, so that two keys which are written
`!!float nan` are one, where a reader that tells such numbers apart keeps both.
-/
def sameKey
    (first second : Scalar) :
    Bool :=
  match first, second with
  | text first, text second => first == second
  | moment first, moment second => first.sameMoment second
  | first, second =>
      match first.wholeNumber?, second.wholeNumber? with
      | some first, some second => first == second
      | none, none => first == second
      | _, _ => false

/-- Whether a scalar is a whole number with more digits than are shown. -/
def isTooLong : Scalar → Bool
  | int value => Nat.pow 10 Text.longestNumber ≤ value.natAbs
  | _ => false

/-- The text that a scalar is shown as. -/
def shown : Scalar → List Char
  | null => "None".toList
  | bool value => if value then "True".toList else "False".toList
  | int value => (toString value).toList
  | real value => value.text
  | text value => value
  | bytes value => Text.quotedBytes value
  | date value => value.text
  | moment value => value.text

/-- The text that describes a scalar as a value, also when it is not shown. -/
def described : Scalar → List Char
  | int value =>
      if isTooLong (int value) then
        "<unprintable int object>".toList
      else
        shown (int value)
  | text value => Text.quoted value
  | date value => value.describe.toList
  | moment value => value.describe.toList
  | scalar => scalar.shown

@[simp]
theorem sameKey_text
    (first second : List Char) :
    sameKey (.text first) (.text second) = (first == second) := rfl

end Scalar

end Delimit.Yaml
