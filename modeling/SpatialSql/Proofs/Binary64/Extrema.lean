import Mathlib.Tactic.SplitIfs
import SpatialSql.Proofs.Binary64.Order
/-!
# Least and greatest doubles

The lesser of two doubles and the greater are one choice by opposite ranks: the first number of
least rank, where a NaN gives way.  What holds of the choice holds of both, and a choice that goes
through a list finds a number of least rank in it.
-/

namespace SpatialSql.Binary64

/-- The number of lower rank, the first of two that are equal; a NaN gives way to a number. -/
def pick (rank : Binary64 → Int) (x y : Binary64) : Binary64 :=
  if x.isNaN then y else if y.isNaN then x else if rank y < rank x then y else x

def fallingKey (x : Binary64) : Int := -x.key

theorem min_eq_pick : Binary64.min = pick key := rfl

theorem max_eq_pick : Binary64.max = pick fallingKey := by
  funext x y
  simp only [Binary64.max, pick, fallingKey, Int.neg_lt_neg_iff]

/-! ## The choice -/

section Pick

variable {r : Binary64 → Int} {x y : Binary64}

theorem pick_of_isNaN_left (hx : x.isNaN = true) : pick r x y = y := by
  rw [pick, if_pos hx]

section

variable (hx : x.isNaN = false)

include hx

theorem pick_of_isNaN_right (hy : y.isNaN = true) : pick r x y = x := by
  rw [pick, if_neg (Bool.eq_false_iff.1 hx), if_pos hy]

variable (hy : y.isNaN = false)

include hy

theorem pick_of_lt (h : r y < r x) : pick r x y = y := by
  rw [pick, if_neg (Bool.eq_false_iff.1 hx), if_neg (Bool.eq_false_iff.1 hy), if_pos h]

theorem pick_of_le (h : r x ≤ r y) : pick r x y = x := by
  rw [pick, if_neg (Bool.eq_false_iff.1 hx), if_neg (Bool.eq_false_iff.1 hy),
    if_neg (Int.not_lt.2 h)]

theorem isNaN_pick : (pick r x y).isNaN = false := by
  by_cases h : r y < r x
  · rwa [pick_of_lt hx hy h]
  · rwa [pick_of_le hx hy (Int.not_lt.1 h)]

theorem rank_pick : r (pick r x y) = Min.min (r x) (r y) := by
  by_cases h : r y < r x
  · rw [pick_of_lt hx hy h]
    omega
  · rw [pick_of_le hx hy (Int.not_lt.1 h)]
    omega

end

theorem pick_self (x : Binary64) : pick r x x = x := by
  cases hx : x.isNaN with
  | true => exact pick_of_isNaN_left hx
  | false => exact pick_of_le hx hx (Int.le_refl _)

theorem pick_eq_or (x y : Binary64) : pick r x y = x ∨ pick r x y = y := by
  unfold pick
  split_ifs <;> simp

theorem pick_mem_append {xs ys : List Binary64} (hx : x ∈ xs) (hy : y ∈ ys) :
    pick r x y ∈ xs ++ ys := by
  obtain h | h := pick_eq_or (r := r) x y
  · rw [h]
    exact List.mem_append_left ys hx
  · rw [h]
    exact List.mem_append_right xs hy

theorem pick_last {last : Binary64} (hlast : last.isNaN = false) (hx : x.isNaN = false)
    (h : r last ≤ r x → x = last) : pick r last x = x ∧ pick r x last = x := by
  by_cases hlt : r x < r last
  · exact ⟨pick_of_lt hlast hx hlt, pick_of_le hx hlast (Int.le_of_lt hlt)⟩
  · rw [h (Int.not_lt.1 hlt)]
    exact ⟨pick_self last, pick_self last⟩

theorem pick_assoc (x y z : Binary64) :
    pick r (pick r x y) z = pick r x (pick r y z) := by
  cases hx : x.isNaN with
  | true => rw [pick_of_isNaN_left hx, pick_of_isNaN_left hx]
  | false =>
    cases hy : y.isNaN with
    | true => rw [pick_of_isNaN_right hx hy, pick_of_isNaN_left hy]
    | false =>
      cases hz : z.isNaN with
      | true => rw [pick_of_isNaN_right (isNaN_pick hx hy) hz, pick_of_isNaN_right hy hz]
      | false =>
        by_cases hxy : r y < r x
        · rw [pick_of_lt hx hy hxy]
          have hle : r (pick r y z) < r x := by
            rw [rank_pick (r := r) hy hz]
            omega
          exact (pick_of_lt hx (isNaN_pick hy hz) hle).symm
        · rw [pick_of_le hx hy (Int.not_lt.1 hxy)]
          by_cases hyz : r z < r y
          · rw [pick_of_lt hy hz hyz]
          · rw [pick_of_le hy hz (Int.not_lt.1 hyz), pick_of_le hx hy (Int.not_lt.1 hxy),
              pick_of_le hx hz (by omega)]

end Pick

theorem min_assoc (x y z : Binary64) : (x.min y).min z = x.min (y.min z) := pick_assoc x y z

theorem max_assoc (x y z : Binary64) : (x.max y).max z = x.max (y.max z) := by
  rw [max_eq_pick]
  exact pick_assoc x y z

theorem min_self (x : Binary64) : x.min x = x := pick_self x

theorem max_self (x : Binary64) : x.max x = x := by
  rw [max_eq_pick]
  exact pick_self x

instance : Std.Associative Binary64.min := ⟨min_assoc⟩
instance : Std.Associative Binary64.max := ⟨max_assoc⟩
instance : Std.IdempotentOp Binary64.min := ⟨min_self⟩
instance : Std.IdempotentOp Binary64.max := ⟨max_self⟩

/-! ## Comparison -/

theorem le_eq_true_iff {x y : Binary64} :
    x.le y = true ↔ x.isNaN = false ∧ y.isNaN = false ∧ x.key ≤ y.key := by
  simp [le, and_assoc]

theorem numEq_eq_true_iff {x y : Binary64} :
    x.numEq y = true ↔ x.isNaN = false ∧ y.isNaN = false ∧ x.key = y.key := by
  simp [numEq, and_assoc]

theorem le_trans {x y z : Binary64} (hxy : x.le y = true) (hyz : y.le z = true) :
    x.le z = true := by
  rw [le_eq_true_iff] at *
  exact ⟨hxy.1, hyz.2.1, Int.le_trans hxy.2.2 hyz.2.2⟩

theorem numEq_of_le {x y : Binary64} (hxy : x.le y = true) (hyx : y.le x = true) :
    x.numEq y = true := by
  rw [le_eq_true_iff] at *
  exact numEq_eq_true_iff.2 ⟨hxy.1, hxy.2.1, Int.le_antisymm hxy.2.2 hyx.2.2⟩

/-! ## The infinities -/

theorem isNaN_eq_false_iff {x : Binary64} :
    x.isNaN = false ↔ x.magnitude ≤ infiniteMagnitude := by
  rw [isNaN, decide_eq_false_iff_not, Nat.not_lt]

theorem key_of_isNegative {x : Binary64} (h : 0x8000000000000000 ≤ x.bits.toNat) :
    x.key = -(x.magnitude : Int) := by
  rw [key, isNegative, if_pos (decide_eq_true h)]

theorem key_of_not_isNegative {x : Binary64} (h : ¬ 0x8000000000000000 ≤ x.bits.toNat) :
    x.key = x.magnitude := by
  rw [key, isNegative, if_neg (by simpa using h)]

theorem eq_infinity {x : Binary64} (hx : x.isNaN = false) (hkey : infinity.key ≤ x.key) :
    x = infinity := by
  have hinfinity : infinity.key = 0x7ff0000000000000 := by decide
  rw [isNaN_eq_false_iff, infiniteMagnitude] at hx
  have hbits : x.bits.toNat = 0x7ff0000000000000 := by
    by_cases hsign : 0x8000000000000000 ≤ x.bits.toNat
    · rw [key_of_isNegative hsign, hinfinity] at hkey
      omega
    · rw [key_of_not_isNegative hsign, hinfinity] at hkey
      rw [magnitude] at hx hkey
      omega
  exact congrArg Binary64.mk (UInt64.toNat_inj.1 hbits)

theorem eq_negInfinity {x : Binary64} (hx : x.isNaN = false) (hkey : x.key ≤ negInfinity.key) :
    x = negInfinity := by
  have hnegInfinity : negInfinity.key = -0x7ff0000000000000 := by decide
  rw [isNaN_eq_false_iff, infiniteMagnitude] at hx
  have hbits : x.bits.toNat = 0xfff0000000000000 := by
    have hlt := x.bits.toNat_lt
    by_cases hsign : 0x8000000000000000 ≤ x.bits.toNat
    · rw [key_of_isNegative hsign, hnegInfinity] at hkey
      rw [magnitude] at hx hkey
      omega
    · rw [key_of_not_isNegative hsign, hnegInfinity] at hkey
      omega
  exact congrArg Binary64.mk (UInt64.toNat_inj.1 hbits)

theorem isNaN_infinity : infinity.isNaN = false := by decide

theorem isNaN_negInfinity : negInfinity.isNaN = false := by decide

section

variable {x : Binary64} (hx : x.isNaN = false)

include hx

theorem infinity_min : infinity.min x = x :=
  (pick_last isNaN_infinity hx (eq_infinity hx)).1

theorem min_infinity : x.min infinity = x :=
  (pick_last isNaN_infinity hx (eq_infinity hx)).2

theorem pick_negInfinity :
    pick fallingKey negInfinity x = x ∧ pick fallingKey x negInfinity = x :=
  pick_last isNaN_negInfinity hx fun h => eq_negInfinity hx (Int.neg_le_neg_iff.1 h)

theorem negInfinity_max : negInfinity.max x = x := by
  rw [max_eq_pick]
  exact (pick_negInfinity hx).1

theorem max_negInfinity : x.max negInfinity = x := by
  rw [max_eq_pick]
  exact (pick_negInfinity hx).2

end

/-! ## Bounds -/

section

variable {x y z : Binary64}

theorem le_min (hx : z.le x = true) (hy : z.le y = true) : z.le (x.min y) = true := by
  rw [min_eq_pick]
  obtain h | h := pick_eq_or (r := key) x y
  · rwa [h]
  · rwa [h]

theorem max_le (hx : x.le z = true) (hy : y.le z = true) : (x.max y).le z = true := by
  rw [max_eq_pick]
  obtain h | h := pick_eq_or (r := fallingKey) x y
  · rwa [h]
  · rwa [h]

variable (hx : x.isNaN = false) (hy : y.isNaN = false)

include hx hy

theorem min_le_left : (x.min y).le x = true := by
  rw [le_eq_true_iff, isNaN_min, key_min hx hy, hx]
  exact ⟨rfl, rfl, Int.min_le_left _ _⟩

theorem min_le_right : (x.min y).le y = true := by
  rw [le_eq_true_iff, isNaN_min, key_min hx hy, hx, hy]
  exact ⟨rfl, rfl, Int.min_le_right _ _⟩

theorem le_max_left : x.le (x.max y) = true := by
  rw [le_eq_true_iff, isNaN_max, key_max hx hy, hx]
  exact ⟨rfl, rfl, Int.le_max_left _ _⟩

theorem le_max_right : y.le (x.max y) = true := by
  rw [le_eq_true_iff, isNaN_max, key_max hx hy, hx, hy]
  exact ⟨rfl, rfl, Int.le_max_right _ _⟩

end

section

variable {x y : Binary64} (hx : x.isNaN = false) (hy : y.isNaN = false)

include hx hy

theorem min_le_max : (x.min y).le (x.max y) = true :=
  le_trans (min_le_left hx hy) (le_max_left hx hy)

theorem min_comm : (x.min y).numEq (y.min x) = true := by
  rw [numEq_eq_true_iff, isNaN_min, isNaN_min, key_min hx hy, key_min hy hx, hx, hy]
  exact ⟨rfl, rfl, Int.min_comm _ _⟩

theorem max_comm : (x.max y).numEq (y.max x) = true := by
  rw [numEq_eq_true_iff, isNaN_max, isNaN_max, key_max hx hy, key_max hy hx, hx, hy]
  exact ⟨rfl, rfl, Int.max_comm _ _⟩

end

/-! ## Lists of numbers -/

/-- A number of a list, at or below all of them. -/
def IsLeastOf (b : Binary64) (xs : List Binary64) : Prop := b ∈ xs ∧ ∀ x ∈ xs, b.le x = true

/-- A number of a list, at or above all of them. -/
def IsGreatestOf (b : Binary64) (xs : List Binary64) : Prop := b ∈ xs ∧ ∀ x ∈ xs, x.le b = true

theorem le_refl {x : Binary64} (hx : x.isNaN = false) : x.le x = true :=
  le_eq_true_iff.2 ⟨hx, hx, Int.le_refl _⟩

section

variable {x : Binary64} (hx : x.isNaN = false)

include hx

theorem isLeastOf_singleton : IsLeastOf x [x] :=
  ⟨List.mem_singleton_self x, List.forall_mem_singleton.2 (le_refl hx)⟩

theorem isGreatestOf_singleton : IsGreatestOf x [x] :=
  ⟨List.mem_singleton_self x, List.forall_mem_singleton.2 (le_refl hx)⟩

end

section

variable {b b' : Binary64} {xs xs' : List Binary64}

theorem IsLeastOf.isNaN_eq_false (h : IsLeastOf b xs) : b.isNaN = false :=
  (le_eq_true_iff.1 (h.2 b h.1)).1

theorem IsGreatestOf.isNaN_eq_false (h : IsGreatestOf b xs) : b.isNaN = false :=
  (le_eq_true_iff.1 (h.2 b h.1)).1

theorem IsLeastOf.append (h : IsLeastOf b xs) (h' : IsLeastOf b' xs') :
    IsLeastOf (b.min b') (xs ++ xs') := by
  have hb := h.isNaN_eq_false
  have hb' := h'.isNaN_eq_false
  constructor
  · rw [min_eq_pick]
    exact pick_mem_append h.1 h'.1
  · refine List.forall_mem_append.2 ⟨fun x hx => ?_, fun x hx => ?_⟩
    · exact le_trans (min_le_left hb hb') (h.2 x hx)
    · exact le_trans (min_le_right hb hb') (h'.2 x hx)

theorem IsGreatestOf.append (h : IsGreatestOf b xs) (h' : IsGreatestOf b' xs') :
    IsGreatestOf (b.max b') (xs ++ xs') := by
  have hb := h.isNaN_eq_false
  have hb' := h'.isNaN_eq_false
  constructor
  · rw [max_eq_pick]
    exact pick_mem_append h.1 h'.1
  · refine List.forall_mem_append.2 ⟨fun x hx => ?_, fun x hx => ?_⟩
    · exact le_trans (h.2 x hx) (le_max_left hb hb')
    · exact le_trans (h'.2 x hx) (le_max_right hb hb')

variable (hsame : ∀ x, x ∈ xs ↔ x ∈ xs')

include hsame

theorem IsLeastOf.numEq (h : IsLeastOf b xs) (h' : IsLeastOf b' xs') : b.numEq b' = true :=
  numEq_of_le (h.2 b' ((hsame b').2 h'.1)) (h'.2 b ((hsame b).1 h.1))

theorem IsGreatestOf.numEq (h : IsGreatestOf b xs) (h' : IsGreatestOf b' xs') :
    b.numEq b' = true :=
  numEq_of_le (h'.2 b ((hsame b).1 h.1)) (h.2 b' ((hsame b').2 h'.1))

end

end SpatialSql.Binary64
