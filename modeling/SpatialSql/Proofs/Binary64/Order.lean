import SpatialSql.Binary64.Basic
/-!
# The order of doubles

A key places each double that is not NaN among the integers.  The lesser and the greater of two
numbers are those of the keys, and a NaN gives way to a number.
-/

namespace SpatialSql.Binary64

@[simp] theorem numEq_self (x : Binary64) : x.numEq x = !x.isNaN := by
  rw [numEq, beq_self_eq_true, Bool.and_true, Bool.and_self]

/-! ## The lesser and the greater -/

theorem isNaN_min (x y : Binary64) : (x.min y).isNaN = (x.isNaN && y.isNaN) := by
  unfold Binary64.min
  cases hx : x.isNaN <;> cases hy : y.isNaN <;> by_cases h : y.key < x.key <;> simp [hx, hy, h]

theorem isNaN_max (x y : Binary64) : (x.max y).isNaN = (x.isNaN && y.isNaN) := by
  unfold Binary64.max
  cases hx : x.isNaN <;> cases hy : y.isNaN <;> by_cases h : x.key < y.key <;> simp [hx, hy, h]

section

variable {x y : Binary64} (hx : x.isNaN = false) (hy : y.isNaN = false)

include hx hy

theorem key_min : (x.min y).key = Min.min x.key y.key := by
  by_cases h : y.key < x.key
  · simp only [Binary64.min, hx, hy, h, Bool.false_eq_true, if_true, if_false]
    omega
  · simp only [Binary64.min, hx, hy, h, Bool.false_eq_true, if_false]
    omega

theorem key_max : (x.max y).key = Max.max x.key y.key := by
  by_cases h : x.key < y.key
  · simp only [Binary64.max, hx, hy, h, Bool.false_eq_true, if_true, if_false]
    omega
  · simp only [Binary64.max, hx, hy, h, Bool.false_eq_true, if_false]
    omega

end

end SpatialSql.Binary64
