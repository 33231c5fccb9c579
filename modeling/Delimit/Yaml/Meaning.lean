import Delimit.Text.Base64
import Delimit.Text.Blank
import Delimit.Text.Digit
import Delimit.Yaml.Scalar
import Delimit.Yaml.Tag

/-!
# The meaning of scalars

A scalar with a tag stands for a value of that tag.  The tag may come from the
text itself or be given; with a given tag, the text may be no value of it.
-/

namespace Delimit.Yaml.Meaning

/-- The value of a digit of any base up to 16. -/
def digitValue?
    (character : Char) :
    Option Nat :=
  match Text.digitValue? character with
  | some value => some value
  | none => if isHexDigit character then some (hexDigitValue character) else none

/-- The number that digits of a base write; at least one digit is needed. -/
def naturalOf?
    (base : Nat)
    (digits : List Char) :
    Option Nat :=
  if digits.isEmpty then
    none
  else
    digits.foldlM
      (fun total digit => do
        let value ← digitValue? digit
        if value < base then some (total * base + value) else none)
      0

/-- The letter that may follow a zero in front of the digits of a base. -/
def baseLetter? : Nat → Option Char
  | 2 => some 'b'
  | 8 => some 'o'
  | 16 => some 'x'
  | _ => none

/-- Digits of a base without the mark of the base that may stand in front of them. -/
def dropBaseMark
    (base : Nat)
    (digits : List Char) :
    List Char :=
  match digits with
  | '0' :: letter :: rest =>
      if baseLetter? base == some letter.toLower then rest else digits
  | _ => digits

/-- The whole number of a base that a text writes, between blanks and with a sign or without. -/
def intOf?
    (base : Nat)
    (text : List Char) :
    Option Int :=
  let stripped := Text.strip text
  let digits := dropBaseMark base (Tag.dropSign stripped)
  if base == 10 && Text.longestNumber < digits.length then
    none
  else
    (naturalOf? base digits).map fun magnitude =>
      if stripped.head? == some '-' then -(magnitude : Int) else magnitude

/-- The sum of the places of a number in base 60. -/
def sixtieths
    (places : List Int) :
    Int :=
  places.foldl (fun total place => total * 60 + place) 0

def int
    (written : List Char) :
    Except Breakdown Int :=
  let text := written.filter (· != '_')
  let sign : Int := if text.head? == some '-' then -1 else 1
  let digits := Tag.dropSign text
  let value? : Option Int :=
    match digits with
    | ['0'] => some 0
    | '0' :: 'b' :: digits => intOf? 2 digits
    | '0' :: 'x' :: digits => intOf? 16 digits
    | '0' :: _ => intOf? 8 digits
    | _ =>
        if digits.contains ':' then
          ((Tag.colonPieces digits).mapM (intOf? 10)).map sixtieths
        else
          intOf? 10 digits
  if digits.isEmpty then
    .error .noDigits
  else
    match value? with
    | some value => .ok (sign * value)
    | none => .error .badNumber

/-- The exponent of ten that a text writes behind its mark, or zero if there is no text. -/
def exponentOf? : List Char → Option Int
  | [] => some 0
  | mark :: digits =>
      if mark.toLower == 'e' then
        (naturalOf? 10 (Tag.dropSign digits)).map fun magnitude =>
          if digits.head? == some '-' then -(magnitude : Int) else magnitude
      else
        none

/-- The binary number nearest to a decimal without a sign. -/
def decimalOf?
    (negative : Bool)
    (text : List Char) :
    Option Number.Binary64 :=
  let isDigit := fun character => (Text.digitValue? character).isSome
  let whole := text.takeWhile isDigit
  let rest := text.dropWhile isDigit
  let (fraction, rest) :=
    match rest with
    | '.' :: rest => (rest.takeWhile isDigit, rest.dropWhile isDigit)
    | _ => ([], rest)
  do
    let digits ← naturalOf? 10 (whole ++ fraction)
    let exponent ← exponentOf? rest
    return .ofDecimal negative digits (exponent - fraction.length)

/-- The binary number that a text writes, between blanks and with a sign or without. -/
def realOf?
    (text : List Char) :
    Option Number.Binary64 :=
  let stripped := (Text.strip text).map Char.toLower
  let negative := stripped.head? == some '-'
  let unsigned := Tag.dropSign stripped
  if unsigned == "inf".toList || unsigned == "infinity".toList then
    some (.infinite negative)
  else if unsigned == "nan".toList then
    some .nan
  else
    decimalOf? negative unsigned

/--
The sum of the places of a binary number in base 60, the last place first, given the
unit of that place.  A unit that is no finite binary number is out of reach.
-/
def realSixtieths :
    Nat →
    Number.Binary64 →
    List Number.Binary64 →
    Except Breakdown Number.Binary64
  | _, total, [] => .ok total
  | unit, total, place :: places =>
      if (Number.Binary64.ofNat unit).isFinite then
        realSixtieths (unit * 60) (total.add (place.scale unit)) places
      else
        .error .overflow

/-- The binary number that a text in lower case writes behind its sign. -/
def realMagnitude
    (unsigned : List Char) :
    Except Breakdown Number.Binary64 :=
  if unsigned == ".inf".toList then
    .ok (.infinite false)
  else if unsigned == ".nan".toList then
    .ok .nan
  else if unsigned.contains ':' then
    match (Tag.colonPieces unsigned).mapM realOf? with
    | some places => realSixtieths 1 (.zero false) places.reverse
    | none => .error .badNumber
  else
    match realOf? unsigned with
    | some value => .ok value
    | none => .error .badNumber

def real
    (written : List Char) :
    Except Breakdown Number.Binary64 :=
  let text := (written.filter (· != '_')).map Char.toLower
  if text.isEmpty then
    .error .noDigits
  else
    (realMagnitude (Tag.dropSign text)).map fun value =>
      if text.head? == some '-' then value.negate else value

/-- The truth value that a text names, in any case of letters. -/
def bool
    (written : List Char) :
    Except Breakdown Bool :=
  let word := written.map Char.toLower
  if Tag.trueWords.contains word then
    .ok true
  else if Tag.falseWords.contains word then
    .ok false
  else
    .error .unknownWord

/-- The date or the moment that a text writes. -/
def timestamp
    (written : List Char) :
    Except Breakdown Scalar :=
  let text := if written.getLast? == some '\n' then written.dropLast else written
  match Timestamp.ofText? text with
  | none => .error .noTimestamp
  | some timestamp =>
      match timestamp.moment? with
      | some moment => if moment.isValid then .ok (.moment moment) else .error .badNumber
      | none =>
          if timestamp.date.isValid then .ok (.date timestamp.date) else .error .badNumber

/-- The bytes that a text writes in base 64. -/
def bytes
    (written : List Char) :
    Except Fault (List UInt8) :=
  if written.all fun character => character.toNat < 128 then
    match Text.Base64.decode? written with
    | some bytes => .ok bytes
    | none => .error .badValue
  else
    .error .badValue

def faulting
    {α : Type}
    (meaning : Except Breakdown α) :
    Except Fault α :=
  meaning.mapError .breakdown

/-- The value of a scalar with a tag. -/
def ofScalar
    (tag : Tag)
    (written : List Char) :
    Except Fault Scalar :=
  match tag with
  | .null => .ok .null
  | .bool => (faulting (bool written)).map .bool
  | .int => (faulting (int written)).map .int
  | .real => (faulting (real written)).map .real
  | .binary => (bytes written).map .bytes
  | .timestamp => faulting (timestamp written)
  | .string => .ok (.text written)
  | _ => .error .badValue

end Delimit.Yaml.Meaning
