import Delimit.Number.Rounding

/-!
# Binary numbers of 64 bits

A finite number is a significand below 2 ^ 53 times a power of two whose exponent
is at least -1074; the significand is at least 2 ^ 52 unless the exponent is the
least one.  Every operation gives the number nearest to the exact result, the one
with the even significand of two, so all of it is arithmetic of whole numbers.
-/

namespace Delimit.Number

/-- A binary number of 64 bits. -/
inductive Binary64 where
  | nan
  | infinite (negative : Bool)
  /-- A significand times a power of two. -/
  | finite (negative : Bool) (significand : Nat) (exponent : Int)
  deriving DecidableEq, Repr

namespace Binary64

def leastExponent : Int := -1074

def greatestExponent : Int := 971

/-- The least significand that has all its digits, 2 ^ 52. -/
def leastFull : Nat := 4503599627370496

def zero
    (negative : Bool) :
    Binary64 :=
  .finite negative 0 leastExponent

/-- The greatest exponent of two whose power is at most a positive quotient. -/
def floorLog2
    (numerator denominator : Nat) :
    Int :=
  let guess : Int := numerator.log2 - denominator.log2
  let reached :=
    if 0 ≤ guess then
      denominator * Nat.pow 2 guess.toNat ≤ numerator
    else
      denominator ≤ numerator * Nat.pow 2 (-guess).toNat
  if reached then guess else guess - 1

def ofQuotient
    (negative : Bool)
    (numerator denominator : Nat) :
    Binary64 :=
  if numerator = 0 then
    zero negative
  else
    let exponent := max (floorLog2 numerator denominator - 52) leastExponent
    let significand :=
      if 0 ≤ exponent then
        roundQuotient numerator (denominator * Nat.pow 2 exponent.toNat)
      else
        roundQuotient (numerator * Nat.pow 2 (-exponent).toNat) denominator
    let (significand, exponent) :=
      if significand = 2 * leastFull then (leastFull, exponent + 1) else (significand, exponent)
    if greatestExponent < exponent then
      .infinite negative
    else
      .finite negative significand exponent

/--
The number nearest to a decimal: digits times a power of ten.  Decimals far beyond
the range are told by the place of their first digit.
-/
def ofDecimal
    (negative : Bool)
    (digits : Nat)
    (exponent : Int) :
    Binary64 :=
  let place : Int := (Nat.toDigits 10 digits).length + exponent
  if digits = 0 || place < -400 then
    zero negative
  else if 400 < place then
    .infinite negative
  else if 0 ≤ exponent then
    ofQuotient negative (digits * Nat.pow 10 exponent.toNat) 1
  else
    ofQuotient negative digits (Nat.pow 10 (-exponent).toNat)

def ofNat
    (value : Nat) :
    Binary64 :=
  ofQuotient false value 1

def negate : Binary64 → Binary64
  | nan => nan
  | infinite negative => .infinite !negative
  | finite negative significand exponent => .finite (!negative) significand exponent

/-- The signed multiple of the least power of two that a finite number is. -/
def scaled
    (negative : Bool)
    (significand : Nat)
    (exponent : Int) :
    Int :=
  let magnitude : Int := (significand * Nat.pow 2 (exponent - leastExponent).toNat : Nat)
  if negative then -magnitude else magnitude

def add : Binary64 → Binary64 → Binary64
  | nan, _ | _, nan => nan
  | infinite first, infinite second => if first = second then infinite first else nan
  | infinite negative, _ | _, infinite negative => infinite negative
  | finite firstNegative firstSignificand firstExponent,
    finite secondNegative secondSignificand secondExponent =>
      let sum :=
        scaled firstNegative firstSignificand firstExponent +
          scaled secondNegative secondSignificand secondExponent
      if sum = 0 then
        zero (firstNegative && secondNegative)
      else
        ofQuotient (sum < 0) sum.natAbs (Nat.pow 2 (-leastExponent).toNat)

/-- The product of a number and a natural number that is a number itself. -/
def scale
    (factor : Nat) : Binary64 → Binary64
  | nan => nan
  | infinite negative => if factor = 0 then nan else infinite negative
  | finite negative significand exponent =>
      match ofNat factor with
      | finite _ other power =>
          ofQuotient negative
            (significand * other *
              Nat.pow 2 (exponent + power - 2 * leastExponent).toNat)
            (Nat.pow 2 (-2 * leastExponent).toNat)
      | _ => infinite negative

def isFinite : Binary64 → Bool
  | finite .. => true
  | _ => false

/-- The whole number that a number is, if it is one. -/
def toInt? : Binary64 → Option Int
  | finite negative significand exponent =>
      let magnitude? :=
        if 0 ≤ exponent then
          some (significand * Nat.pow 2 exponent.toNat)
        else
          let unit := Nat.pow 2 (-exponent).toNat
          if significand % unit = 0 then some (significand / unit) else none
      magnitude?.map fun magnitude => if negative then -(magnitude : Int) else magnitude
  | _ => none

end Binary64

end Delimit.Number
