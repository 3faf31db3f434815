import SpatialSql.Binary64.Basic
/-!
# Exact values and rounding

Every finite double is a whole number of units, a unit being the least positive double
`2 ^ -1074`.  A magnitude splits uniformly as `step * 2 ^ 52 + significand`, and its value is
`significand * 2 ^ step` units; the subnormal numbers are those of step zero whose significand
has fewer than 53 bits.  Rounding a fraction of units to the nearest double, a tie to the even
significand, therefore needs only division of natural numbers.
-/

namespace SpatialSql.Binary64

def unitsPerOne : Nat := Nat.pow 2 1074

/-- The exponent of the spacing of doubles around a magnitude. -/
def step (magnitude : Nat) : Nat := magnitude / 0x10000000000000 - 1

def significand (magnitude : Nat) : Nat := magnitude - step magnitude * 0x10000000000000

/-- The absolute value of a finite double, in units. -/
def units (magnitude : Nat) : Nat := significand magnitude * Nat.pow 2 (step magnitude)

def signedUnits (x : Binary64) : Int :=
  if x.isNegative then -(units x.magnitude : Int) else units x.magnitude

/-- The integer nearest to `num / den`, the even one of two. -/
def roundQuotient (num den : Nat) : Nat :=
  let whole := num / den
  let rest := num % den
  if 2 * rest < den then whole
  else if den < 2 * rest then whole + 1
  else whole + whole % 2

/-- The magnitude nearest to `num / den` units, infinite when that is too large. -/
def nearest (num den : Nat) : Nat :=
  let exponent := (num / den).log2 - 52
  Nat.min (exponent * 0x10000000000000 + roundQuotient num (den * Nat.pow 2 exponent))
    infiniteMagnitude

def ofInt (n : Int) : Binary64 :=
  ofParts (decide (n < 0)) (nearest (n.natAbs * unitsPerOne) 1)

end SpatialSql.Binary64
