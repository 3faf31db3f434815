import SpatialSql.Geometry.Basic
/-!
# Equality of geometries

Two geometries agree when they have the same structure and their coordinates agree one by one.
Callers compare by numeric agreement, in which the zeros are equal and NaN differs from itself;
agreement by identity is equality, which is decidable for that reason.
-/

namespace SpatialSql

def Point.agrees (same : Coordinate → Coordinate → Bool) : Point → Point → Bool
  | none, none => true
  | some a, some b => same a b
  | _, _ => false

def Path.agrees (same : Coordinate → Coordinate → Bool) (p q : Path) : Bool := p.isEqv q same

def Polygon.agrees (same : Coordinate → Coordinate → Bool) (p q : Polygon) : Bool :=
  p.isEqv q (Path.agrees same)

namespace Geometry

mutual

/-- The same structure with coordinates that are the same. -/
def agrees (same : Coordinate → Coordinate → Bool) : Geometry → Geometry → Bool
  | .point p, .point q => Point.agrees same p q
  | .lineString p, .lineString q => Path.agrees same p q
  | .linearRing p, .linearRing q => Path.agrees same p q
  | .polygon p, .polygon q => Polygon.agrees same p q
  | .multiPoint ps, .multiPoint qs => ps.isEqv qs (Point.agrees same)
  | .multiLineString ps, .multiLineString qs => ps.isEqv qs (Path.agrees same)
  | .multiPolygon ps, .multiPolygon qs => ps.isEqv qs (Polygon.agrees same)
  | .collection gs, .collection hs => membersAgree same gs hs
  | _, _ => false
termination_by structural g => g

def membersAgree (same : Coordinate → Coordinate → Bool) : List Geometry → List Geometry → Bool
  | [], [] => true
  | g :: gs, h :: hs => agrees same g h && membersAgree same gs hs
  | _, _ => false
termination_by structural gs => gs

end

def numEq (g h : Geometry) : Bool := agrees Coordinate.numEq g h

end Geometry

/-! ## Agreement by identity -/

theorem isEqv_iff_eq {eqv : α → α → Bool} (heqv : ∀ a b, eqv a b = true ↔ a = b)
    (as bs : List α) : as.isEqv bs eqv = true ↔ as = bs := by
  induction as generalizing bs with
  | nil => cases bs <;> simp [List.isEqv]
  | cons a as ih => cases bs <;> simp [List.isEqv, heqv, ih]

def Coordinate.identical (a b : Coordinate) : Bool := decide (a = b)

open Coordinate (identical)

theorem Point.agrees_identical (p q : Point) : p.agrees identical q = true ↔ p = q := by
  cases p <;> cases q <;> simp [Point.agrees, identical]

theorem Path.agrees_identical (p q : Path) : p.agrees identical q = true ↔ p = q :=
  isEqv_iff_eq (fun _ _ => decide_eq_true_iff) p q

theorem Polygon.agrees_identical (p q : Polygon) : p.agrees identical q = true ↔ p = q :=
  isEqv_iff_eq Path.agrees_identical p q

namespace Geometry

mutual

theorem agrees_identical : (g h : Geometry) → (g.agrees identical h = true ↔ g = h)
  | .point p, h => by cases h <;> simp [agrees, Point.agrees_identical]
  | .lineString p, h => by cases h <;> simp [agrees, Path.agrees_identical]
  | .linearRing p, h => by cases h <;> simp [agrees, Path.agrees_identical]
  | .polygon p, h => by cases h <;> simp [agrees, Polygon.agrees_identical]
  | .multiPoint ps, h => by cases h <;> simp [agrees, isEqv_iff_eq Point.agrees_identical]
  | .multiLineString ps, h => by cases h <;> simp [agrees, isEqv_iff_eq Path.agrees_identical]
  | .multiPolygon ps, h => by cases h <;> simp [agrees, isEqv_iff_eq Polygon.agrees_identical]
  | .collection gs, h => by cases h <;> simp [agrees, membersAgree_identical gs]

theorem membersAgree_identical :
    (gs hs : List Geometry) → (membersAgree identical gs hs = true ↔ gs = hs)
  | [], hs => by cases hs <;> simp [membersAgree]
  | g :: gs, hs => by
    cases hs <;> simp [membersAgree, agrees_identical g, membersAgree_identical gs]

end

instance : DecidableEq Geometry := fun g h => decidable_of_iff _ (g.agrees_identical h)

end Geometry

end SpatialSql
