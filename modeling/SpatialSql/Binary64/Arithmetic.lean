import SpatialSql.Binary64.Rounding
/-!
# Rounded arithmetic

Sum, difference, product, half and square root: the exact result on units, rounded once.
-/

namespace SpatialSql.Binary64

def add (x y : Binary64) : Binary64 :=
  if x.isNaN || y.isNaN then nan
  else if x.isInfinite then
    if y.isInfinite && x.isNegative != y.isNegative then nan else x
  else if y.isInfinite then y
  else
    let sum := x.signedUnits + y.signedUnits
    if sum = 0 then ofParts (x.isNegative && y.isNegative) 0
    else ofParts (decide (sum < 0)) (nearest sum.natAbs 1)

def sub (x y : Binary64) : Binary64 := add x y.neg

def mul (x y : Binary64) : Binary64 :=
  let negative := x.isNegative != y.isNegative
  if x.isNaN || y.isNaN then nan
  else if x.isInfinite || y.isInfinite then
    if x.isZero || y.isZero then nan else ofParts negative infiniteMagnitude
  else ofParts negative (nearest (units x.magnitude * units y.magnitude) unitsPerOne)

def half (x : Binary64) : Binary64 :=
  if x.isNaN then nan
  else if x.isInfinite then x
  else ofParts x.isNegative (nearest (units x.magnitude) 2)

/-- The whole part of a square root, one binary digit a step from `2 ^ places` down. -/
def wholeSqrt (n : Nat) : Nat → Nat
  | 0 => 0
  | places + 1 =>
    let high := wholeSqrt (n / 4) places
    let root := 2 * high
    if (root + 1) * (root + 1) ≤ n then root + 1 else root

/-- The root in units has more than 500 binary digits before it is rounded, so one further digit
that tells an exact root from an inexact one decides every rounding. -/
def sqrt (x : Binary64) : Binary64 :=
  if x.isNaN then nan
  else if x.isZero then x
  else if x.isNegative then nan
  else if x.isInfinite then x
  else
    let square := units x.magnitude * unitsPerOne
    let root := wholeSqrt square (square.log2 / 2 + 1)
    let inexact := if root * root = square then 0 else 1
    ofParts false (nearest (2 * root + inexact) 2)

end SpatialSql.Binary64
