import SpatialSql.Geometry.Coordinate
/-!
# Rings

A path is a ring when it is empty, or closed with at least four coordinates.
-/

namespace SpatialSql.Path

theorem isRing_iff {path : Path} :
    path.isRing = true ↔ path = [] ∨ 4 ≤ path.length ∧ path.isClosed = true := by
  unfold isRing ringFault?
  by_cases hempty : path = []
  · simp [hempty]
  · have hisEmpty : path.isEmpty = false := by simpa using hempty
    by_cases hlength : path.length < 4
    · have hshort : ¬ 4 ≤ path.length := by omega
      simp [hisEmpty, hempty, hlength, hshort]
    · have hlong : 4 ≤ path.length := by omega
      cases hclosed : path.isClosed <;> simp [hisEmpty, hempty, hlength, hlong]

theorem ring_eq_ok_iff {path ring : Path} :
    path.ring = .ok ring ↔ path.isRing = true ∧ ring = path := by
  unfold Path.ring isRing
  cases path.ringFault? with
  | none => simp [eq_comm]
  | some fault => simp

end SpatialSql.Path
