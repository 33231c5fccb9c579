/-!
# Sets of characters given by closed ranges of code points

A property of characters is tabulated as a list of closed ranges.  Membership
asks whether some range holds the code point; the ranges of every table in this
library are disjoint and ascend.
-/

namespace Delimit.Text

/-- A set of code points, as the closed ranges that cover it. -/
structure Ranges where
  /-- The ranges, each with its first and its last code point. -/
  bounds : List (Nat × Nat)

namespace Ranges

/-- Whether a code point lies in one of the ranges. -/
def holds
    (ranges : Ranges)
    (code : Nat) :
    Bool :=
  ranges.bounds.any fun bound => bound.1 ≤ code && code ≤ bound.2

/-- Whether a character lies in one of the ranges. -/
def contains
    (ranges : Ranges)
    (character : Char) :
    Bool :=
  ranges.holds character.toNat

theorem holds_iff
    (ranges : Ranges)
    (code : Nat) :
    ranges.holds code = true ↔
      ∃ bound ∈ ranges.bounds, bound.1 ≤ code ∧ code ≤ bound.2 := by
  simp [holds]

end Ranges

end Delimit.Text
