import SpatialSql.Binary64.Rounding
/-!
# Shortest decimals

A decimal is a whole coefficient and a power of ten.  The shortest decimal of a double is found
on the grids of 1, 2, … 17 digits: on each grid the two neighbours of the exact value are read
back, and the first grid with a neighbour that gives the double again supplies the digits.
-/

namespace SpatialSql

/-- The number `coefficient * 10 ^ exponent`. -/
structure Decimal where
  coefficient : Nat
  exponent : Int
  deriving DecidableEq

namespace Decimal

open Binary64

def magnitude (d : Decimal) : Nat :=
  nearest (d.coefficient * Nat.pow 10 d.exponent.toNat * unitsPerOne)
    (Nat.pow 10 (-d.exponent).toNat)

def digits (d : Decimal) : List Char := Nat.toDigits 10 d.coefficient

/-- The number of digits before the point; zero or less when the value is below one tenth. -/
def place (d : Decimal) : Int := d.digits.length + d.exponent

def strip (d : Decimal) : Decimal :=
  if d.coefficient = 0 then ⟨0, 0⟩
  else
    let zeros := (d.digits.reverse.takeWhile (· == '0')).length
    ⟨d.coefficient / Nat.pow 10 zeros, d.exponent + zeros⟩

/-- The coefficient, on the grid of multiples of `10 ^ exponent`, at or below a number of
units. -/
def below (units : Nat) (exponent : Int) : Nat :=
  units * Nat.pow 10 (-exponent).toNat / (unitsPerOne * Nat.pow 10 exponent.toNat)

/-- Whether the grid point at or below a number of units is nearer to it than the next; at equal
distances it is not. -/
def lowerIsNearer (units : Nat) (exponent : Int) : Bool :=
  decide (2 * units * Nat.pow 10 (-exponent).toNat
    < (2 * below units exponent + 1) * (unitsPerOne * Nat.pow 10 exponent.toNat))

/-- The power of ten of the leading digit: estimated from the binary logarithm, with
`30103 / 100000` for the logarithm of two, and raised by one where the estimate is short. -/
def leadingExponent (units : Nat) : Int :=
  let estimate := ((units.log2 : Int) - 1074) * 30103 / 100000
  if below units (estimate + 1) = 0 then estimate else estimate + 1

/-- The nearer of the two neighbours on one grid, of those that read back. -/
def onGrid? (target : Nat) (exponent : Int) : Option Decimal :=
  let lower : Decimal := ⟨below (units target) exponent, exponent⟩
  let upper : Decimal := ⟨lower.coefficient + 1, exponent⟩
  let lowerReads := lower.magnitude == target
  let upperReads := upper.magnitude == target
  if lowerReads && (!upperReads || lowerIsNearer (units target) exponent) then some lower
  else if upperReads then some upper
  else none

def exact (target : Nat) : Decimal := ⟨units target * Nat.pow 5 1074, -1074⟩

/-- The decimal with the fewest digits that reads back as a finite magnitude, and of those the
nearest. -/
def shortest (target : Nat) : Decimal :=
  if target = 0 then ⟨0, 0⟩
  else
    let leading := leadingExponent (units target)
    let found := (List.range 17).findSome? fun (further : Nat) =>
      onGrid? target (leading - further)
    (found.getD (exact target)).strip

/-! ## Layout -/

def positional (d : Decimal) : List Char :=
  let digits := d.digits
  let places := (-d.exponent).toNat
  if places = 0 then digits ++ List.replicate d.exponent.toNat '0'
  else if digits.length ≤ places then
    '0' :: '.' :: (List.replicate (places - digits.length) '0' ++ digits)
  else digits.take (digits.length - places) ++ '.' :: digits.drop (digits.length - places)

def scientific (d : Decimal) : List Char :=
  let mantissa :=
    match d.digits with
    | lead :: second :: rest => lead :: '.' :: second :: rest
    | digits => digits
  mantissa ++ 'e' :: (toString (d.place - 1)).toList

end Decimal

end SpatialSql
