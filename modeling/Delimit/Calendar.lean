/-!
# Dates and times

A date is a day of the years 1 to 9999, and a moment is a time of day on a date,
to the microsecond, with or without a distance from the common time.  Moments
with a distance are equal when they are the same instant.
-/

namespace Delimit

structure Date where
  year : Nat
  month : Nat
  /-- The day of the month, from 1. -/
  day : Nat
  deriving DecidableEq, Repr

/-- A time of day on a date. -/
structure Moment where
  date : Date
  hour : Nat
  minute : Nat
  second : Nat
  microsecond : Nat
  /-- The minutes by which local time is ahead of the common time, if they are known. -/
  offset? : Option Int
  deriving DecidableEq, Repr

/-- A number with zeros in front, up to a width. -/
def zeroPadded
    (width number : Nat) :
    List Char :=
  let digits := Nat.toDigits 10 number
  List.replicate (width - digits.length) '0' ++ digits

namespace Date

def isLeap
    (year : Nat) :
    Bool :=
  year % 4 == 0 && (year % 100 != 0 || year % 400 == 0)

def daysIn
    (year month : Nat) :
    Nat :=
  if month == 2 then
    if isLeap year then 29 else 28
  else if [4, 6, 9, 11].contains month then
    30
  else
    31

def isValid
    (date : Date) :
    Bool :=
  1 ≤ date.year && date.year ≤ 9999 &&
    1 ≤ date.month && date.month ≤ 12 &&
    1 ≤ date.day && date.day ≤ daysIn date.year date.month

def dayNumber
    (date : Date) :
    Nat :=
  let years := date.year - 1
  let months := List.range (date.month - 1)
  let daysOfYear :=
    months.foldl (fun days month => days + daysIn date.year (month + 1)) date.day
  365 * years + years / 4 - years / 100 + years / 400 + daysOfYear

def text
    (date : Date) :
    List Char :=
  zeroPadded 4 date.year ++ '-' :: zeroPadded 2 date.month ++ '-' :: zeroPadded 2 date.day

/-- The numbers of a date, as they are listed. -/
def numbers
    (date : Date) :
    List Nat :=
  [date.year, date.month, date.day]

/-- The text that describes a date as a value. -/
def describe
    (date : Date) :
    String :=
  "datetime.date(" ++ ", ".intercalate (date.numbers.map toString) ++ ")"

end Date

namespace Moment

def minutesOfDay : Int := 1440

/-- Whether a moment exists; its distance from the common time is less than a day. -/
def isValid
    (moment : Moment) :
    Bool :=
  moment.date.isValid && moment.hour < 24 && moment.minute < 60 && moment.second < 60 &&
    moment.offset?.all fun offset => -minutesOfDay < offset && offset < minutesOfDay

/-- The microseconds of common time before a moment, taking an unknown distance as none. -/
def instant
    (moment : Moment) :
    Int :=
  let minutes : Int :=
    moment.date.dayNumber * minutesOfDay + moment.hour * 60 + moment.minute -
      moment.offset?.getD 0
  (minutes * 60 + moment.second) * 1000000 + moment.microsecond

/-- Whether two moments are equal: the same instant, if both have a distance, or else alike. -/
def sameMoment
    (first second : Moment) :
    Bool :=
  first.offset?.isSome == second.offset?.isSome && first.instant == second.instant

/-- The text of a distance from the common time. -/
def offsetText
    (offset : Int) :
    List Char :=
  (if offset < 0 then '-' else '+') ::
    zeroPadded 2 (offset.natAbs / 60) ++ ':' :: zeroPadded 2 (offset.natAbs % 60)

def text
    (moment : Moment) :
    List Char :=
  moment.date.text ++ ' ' :: zeroPadded 2 moment.hour ++ ':' :: zeroPadded 2 moment.minute ++
    ':' :: zeroPadded 2 moment.second ++
    (if moment.microsecond == 0 then [] else '.' :: zeroPadded 6 moment.microsecond) ++
    (moment.offset?.map offsetText).getD []

/-- The text that describes a distance from the common time as a value. -/
def describeOffset
    (offset : Int) :
    String :=
  if offset == 0 then
    "datetime.timezone.utc"
  else
    let days := if offset < 0 then "days=-1, " else ""
    let seconds := (if offset < 0 then offset + minutesOfDay else offset) * 60
    "datetime.timezone(datetime.timedelta(" ++ days ++ "seconds=" ++ toString seconds ++ "))"

/-- The numbers of a moment as they are listed, without zero seconds at the end. -/
def numbers
    (moment : Moment) :
    List Nat :=
  let last :=
    if moment.microsecond != 0 then
      [moment.second, moment.microsecond]
    else if moment.second != 0 then
      [moment.second]
    else
      []
  moment.date.numbers ++ [moment.hour, moment.minute] ++ last

/-- The text that describes a moment as a value. -/
def describe
    (moment : Moment) :
    String :=
  let offset :=
    (moment.offset?.map fun offset => ["tzinfo=" ++ describeOffset offset]).getD []
  "datetime.datetime(" ++ ", ".intercalate (moment.numbers.map toString ++ offset) ++ ")"

end Moment

end Delimit
