/-!
# Double-precision ordinates

A double is kept as its 64 bits, so that a value which crosses the wire keeps the payload of a
NaN and the sign of a zero.  The lower 63 bits, read as a number, order the absolute values; the
comparisons below are the usual ones, in which NaN is incomparable and the two zeros are equal.
-/

namespace SpatialSql

/-- A double-precision number, by its bits. -/
structure Binary64 where
  bits : UInt64
  deriving DecidableEq, Inhabited

namespace Binary64

def magnitude (x : Binary64) : Nat := x.bits.toNat % 0x8000000000000000

/-- The sign bit; a zero and a NaN have one too. -/
def isNegative (x : Binary64) : Bool := decide (0x8000000000000000 ≤ x.bits.toNat)

/-- The magnitude of the infinities: every finite magnitude is below, every NaN above. -/
def infiniteMagnitude : Nat := 0x7ff0000000000000

def ofParts (negative : Bool) (magnitude : Nat) : Binary64 :=
  ⟨UInt64.ofNat ((if negative then 0x8000000000000000 else 0) + magnitude)⟩

def zero : Binary64 := ⟨0⟩
def infinity : Binary64 := ⟨0x7ff0000000000000⟩
def negInfinity : Binary64 := ⟨0xfff0000000000000⟩

def nan : Binary64 := ⟨0x7ff8000000000000⟩

def isNaN (x : Binary64) : Bool := decide (infiniteMagnitude < x.magnitude)
def isFinite (x : Binary64) : Bool := decide (x.magnitude < infiniteMagnitude)
def isInfinite (x : Binary64) : Bool := x.magnitude == infiniteMagnitude
def isZero (x : Binary64) : Bool := x.magnitude == 0

def neg (x : Binary64) : Binary64 := ofParts (!x.isNegative) x.magnitude

/-! ## Comparison -/

/-- Orders the numbers that are not NaN, with one place for the two zeros. -/
def key (x : Binary64) : Int := if x.isNegative then -(x.magnitude : Int) else x.magnitude

def le (x y : Binary64) : Bool := !x.isNaN && !y.isNaN && decide (x.key ≤ y.key)
def lt (x y : Binary64) : Bool := !x.isNaN && !y.isNaN && decide (x.key < y.key)

/-- Numeric equality: the zeros are equal, and NaN differs from itself. -/
def numEq (x y : Binary64) : Bool := !x.isNaN && !y.isNaN && x.key == y.key

/-- The lesser number; a NaN gives way to a number. -/
def min (x y : Binary64) : Binary64 :=
  if x.isNaN then y else if y.isNaN then x else if y.key < x.key then y else x

def max (x y : Binary64) : Binary64 :=
  if x.isNaN then y else if y.isNaN then x else if x.key < y.key then y else x

end Binary64

end SpatialSql
