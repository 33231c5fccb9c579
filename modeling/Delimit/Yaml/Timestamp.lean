import Delimit.Calendar

/-!
# Written timestamps

A timestamp is a date, or a date and a time of day with an optional fraction and
an optional distance from the common time.  Only a date whose month and day have
two digits is taken for a timestamp without a tag that says so.
-/

namespace Delimit.Yaml

/-- A timestamp as it is written. -/
structure Timestamp where
  date : Date
  /-- Whether the month and the day have two digits each. -/
  wide : Bool
  /-- The hour, the minute and the second, unless there is only a date. -/
  time? : Option (Nat × Nat × Nat) := none
  /-- The digits of the fraction of a second. -/
  fraction : List Char := []
  /-- The distance from the common time in minutes. -/
  offset? : Option Int := none
  deriving Repr

namespace Timestamp

def numberOf
    (digits : List Char) :
    Nat :=
  digits.foldl (fun total digit => total * 10 + (digit.toNat - '0'.toNat)) 0

/-- The digits that a text begins with, at least one and at most two. -/
def oneOrTwo? : List Char → Option (List Char × List Char)
  | first :: second :: rest =>
      if first.isDigit && second.isDigit then
        some ([first, second], rest)
      else if first.isDigit then
        some ([first], second :: rest)
      else
        none
  | [first] => if first.isDigit then some ([first], []) else none
  | [] => none

/-- The two digits that a text begins with. -/
def two? : List Char → Option (Nat × List Char)
  | first :: second :: rest =>
      if first.isDigit && second.isDigit then
        some (numberOf [first, second], rest)
      else
        none
  | _ => none

/-- The text behind a character that a text begins with. -/
def behind?
    (character : Char) :
    List Char → Option (List Char)
  | [] => none
  | first :: rest => if first = character then some rest else none

/-- The distance from the common time that a text consists of. -/
def offsetOf? : List Char → Option (Option Int)
  | [] => some none
  | 'Z' :: rest => if rest.isEmpty then some (some 0) else none
  | sign :: rest =>
      if sign == '+' || sign == '-' then do
        let (hours, rest) ← oneOrTwo? rest
        let minutes ←
          if rest.isEmpty then
            some 0
          else do
            let rest ← behind? ':' rest
            let (minutes, rest) ← two? rest
            if rest.isEmpty then some minutes else none
        let distance : Int := numberOf hours * 60 + minutes
        return some (if sign == '-' then -distance else distance)
      else
        none

/-- Whether a character may part the pieces of a timestamp. -/
def isGap
    (character : Char) :
    Bool :=
  character == ' ' || character == '\t'

/-- The text behind what parts the date from the time of day. -/
def behindDate? : List Char → Option (List Char)
  | [] => none
  | first :: rest =>
      if first == 'T' || first == 't' then
        some rest
      else if isGap first then
        some (rest.dropWhile isGap)
      else
        none

def ofText?
    (text : List Char) :
    Option Timestamp := do
  let year := text.take 4
  if year.length != 4 || !year.all Char.isDigit then
    none
  let (month, rest) ← (behind? '-' (text.drop 4)).bind oneOrTwo?
  let (day, rest) ← (behind? '-' rest).bind oneOrTwo?
  let date : Date := ⟨numberOf year, numberOf month, numberOf day⟩
  let wide := month.length == 2 && day.length == 2
  if rest.isEmpty then
    return { date, wide }
  let (hour, rest) ← (behindDate? rest).bind oneOrTwo?
  let (minute, rest) ← (behind? ':' rest).bind two?
  let (second, rest) ← (behind? ':' rest).bind two?
  let (fraction, rest) :=
    match behind? '.' rest with
    | some rest => (rest.takeWhile Char.isDigit, rest.dropWhile Char.isDigit)
    | none => ([], rest)
  let zone := rest.dropWhile isGap
  if zone.isEmpty && !rest.isEmpty then
    none
  let offset? ← offsetOf? zone
  return { date, wide, time? := some (numberOf hour, minute, second), fraction, offset? }

/-- Whether a timestamp is one without a tag that says so. -/
def isImplicit
    (timestamp : Timestamp) :
    Bool :=
  timestamp.wide || timestamp.time?.isSome

/-- The microseconds that the digits of a fraction write; further digits are cut off. -/
def microsecondOf
    (fraction : List Char) :
    Nat :=
  let digits := fraction.take 6
  numberOf (digits ++ List.replicate (6 - digits.length) '0')

/-- The moment of a timestamp with a time of day. -/
def moment?
    (timestamp : Timestamp) :
    Option Moment :=
  timestamp.time?.map fun (hour, minute, second) =>
    { date := timestamp.date
      hour
      minute
      second
      microsecond := microsecondOf timestamp.fraction
      offset? := timestamp.offset? }

end Timestamp

end Delimit.Yaml
