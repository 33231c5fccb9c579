/-!
# Rounding quotients

A quotient of natural numbers is rounded to the nearest natural number; halfway
between two of them it goes to the even one.
-/

namespace Delimit.Number

/-- The natural number nearest to a quotient, the even one of two. -/
def roundQuotient
    (numerator denominator : Nat) :
    Nat :=
  let quotient := numerator / denominator
  let twice := 2 * (numerator % denominator)
  if twice < denominator then
    quotient
  else if denominator < twice then
    quotient + 1
  else if quotient % 2 = 0 then
    quotient
  else
    quotient + 1

/-- A rounded quotient is at most half a unit away. -/
theorem roundQuotient_near
    (numerator : Nat)
    {denominator : Nat}
    (positive : 0 < denominator) :
    2 * numerator ≤ 2 * (roundQuotient numerator denominator * denominator) + denominator ∧
      2 * (roundQuotient numerator denominator * denominator) ≤
        2 * numerator + denominator := by
  have division := Nat.div_add_mod numerator denominator
  have bound := Nat.mod_lt numerator positive
  rw [Nat.mul_comm] at division
  have successor :
      (numerator / denominator + 1) * denominator =
        numerator / denominator * denominator + denominator :=
    Nat.succ_mul _ _
  unfold roundQuotient
  dsimp only
  split
  · omega
  · split
    · rw [successor]
      omega
    · split
      · omega
      · rw [successor]
        omega

end Delimit.Number
