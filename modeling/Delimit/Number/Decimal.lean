import Delimit.Number.Binary64

/-!
# Decimal texts of binary numbers

The shortest text of a number has the fewest digits that read back as it, the
nearest of those to the number, and the even one of two equally near.  It is
positional from four zeros behind the point up to sixteen digits in front of it,
and has an exponent of at least two digits otherwise.  A number can also be
written with a fixed count of places.
-/

namespace Delimit.Number.Binary64

/-- A positive number with the ends of the interval that rounds to it, over one denominator. -/
structure Interval where
  value : Nat
  low : Nat
  high : Nat
  denominator : Nat
  /-- Whether the ends belong to the interval. -/
  closed : Bool

/-- The interval that rounds to a positive number. -/
def intervalOf
    (significand : Nat)
    (exponent : Int) :
    Interval :=
  let unit := Nat.pow 2 exponent.toNat
  let atPower := significand = leastFull && leastExponent < exponent
  { value := 4 * significand * unit
    low := 4 * significand * unit - (if atPower then unit else 2 * unit)
    high := 4 * significand * unit + 2 * unit
    denominator := 4 * Nat.pow 2 (-exponent).toNat
    closed := significand % 2 = 0 }

/-- Whether a decimal, digits times a power of ten, lies in an interval. -/
def Interval.holds
    (interval : Interval)
    (digits : Nat)
    (power : Int) :
    Bool :=
  let point := digits * Nat.pow 10 power.toNat * interval.denominator
  let low := interval.low * Nat.pow 10 (-power).toNat
  let high := interval.high * Nat.pow 10 (-power).toNat
  if interval.closed then
    low ≤ point && point ≤ high
  else
    low < point && point < high

/-- The digits of a grid of decimals nearest to a number that read back as it. -/
def Interval.nearest?
    (interval : Interval)
    (power : Int) :
    Option Nat :=
  let numerator := interval.value * Nat.pow 10 (-power).toNat
  let denominator := interval.denominator * Nat.pow 10 power.toNat
  let below := numerator / denominator
  match interval.holds below power, interval.holds (below + 1) power with
  | true, true => some (roundQuotient numerator denominator)
  | true, false => some below
  | false, true => some (below + 1)
  | false, false => none

/-- The power of ten of the first digit of a positive quotient, searched from a start downwards. -/
def leadingPower (numerator denominator : Nat) : Nat → Int → Int
  | 0, power => power
  | fuel + 1, power =>
      if denominator * Nat.pow 10 power.toNat ≤ numerator * Nat.pow 10 (-power).toNat then
        power
      else
        leadingPower numerator denominator fuel (power - 1)

/-- The shortest digits that read back, from a power of ten downwards. -/
def Interval.shortestFrom
    (interval : Interval) :
    Nat → Int → Nat × Int
  | 0, power => (interval.value * Nat.pow 10 (-power).toNat /
      (interval.denominator * Nat.pow 10 power.toNat), power)
  | fuel + 1, power =>
      match interval.nearest? power with
      | some digits => (digits, power)
      | none => interval.shortestFrom fuel (power - 1)

/-- A decimal without zeros at the end of its digits. -/
def dropZeros : Nat → Nat × Int → Nat × Int
  | 0, decimal => decimal
  | fuel + 1, (digits, power) =>
      if digits ≠ 0 && digits % 10 = 0 then
        dropZeros fuel (digits / 10, power + 1)
      else
        (digits, power)

/-- The shortest decimal of a positive number: its digits and the power of ten of the last one. -/
def shortest
    (significand : Nat)
    (exponent : Int) :
    Nat × Int :=
  let interval := intervalOf significand exponent
  let first := leadingPower interval.value interval.denominator 700 309
  dropZeros 20 (interval.shortestFrom 17 first)

/-- Digits with a point before a place, and a zero on an empty side of it. -/
def positional
    (digits : List Char)
    (place : Int) :
    List Char :=
  if place ≤ 0 then
    '0' :: '.' :: List.replicate (-place).toNat '0' ++ digits
  else
    let count := place.toNat
    let whole := digits.take count ++ List.replicate (count - digits.length) '0'
    let fraction := digits.drop count
    whole ++ '.' :: (if fraction.isEmpty then ['0'] else fraction)

/-- Digits with a point behind the first one and an exponent. -/
def exponential
    (digits : List Char)
    (exponent : Int) :
    List Char :=
  let fraction := digits.drop 1
  let magnitude := Nat.toDigits 10 exponent.natAbs
  digits.take 1 ++
    (if fraction.isEmpty then [] else '.' :: fraction) ++
    ['e', if exponent < 0 then '-' else '+'] ++
    List.replicate (2 - magnitude.length) '0' ++ magnitude

def text : Binary64 → List Char
  | nan => "nan".toList
  | infinite negative => if negative then "-inf".toList else "inf".toList
  | finite negative significand exponent =>
      let sign := if negative then ['-'] else []
      if significand = 0 then
        sign ++ "0.0".toList
      else
        let (value, power) := shortest significand exponent
        let digits := Nat.toDigits 10 value
        let place := power + digits.length
        if -4 < place && place ≤ 16 then
          sign ++ positional digits place
        else
          sign ++ exponential digits (place - 1)

/-- The text of a number with a fixed count of places behind the point, at least one. -/
def fixed
    (places : Nat) : Binary64 → List Char
  | nan => "nan".toList
  | infinite negative => if negative then "-inf".toList else "inf".toList
  | finite negative significand exponent =>
      let value :=
        roundQuotient (significand * Nat.pow 2 exponent.toNat * Nat.pow 10 places)
          (Nat.pow 2 (-exponent).toNat)
      let whole := Nat.toDigits 10 (value / Nat.pow 10 places)
      let fraction := Nat.toDigits 10 (value % Nat.pow 10 places)
      (if negative then ['-'] else []) ++ whole ++ '.' ::
        List.replicate (places - fraction.length) '0' ++ fraction

end Delimit.Number.Binary64
