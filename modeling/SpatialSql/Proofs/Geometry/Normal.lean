import SpatialSql.Proofs.Geometry.Members
/-!
# Geometries without rings of their own

The normal form is the form without linear rings, whether or not it had to be built.  Part by part
it has the same coordinates in the same polygons.
-/

namespace SpatialSql.Geometry

mutual

theorem withoutRings_eq : (g : Geometry) → g.containsRing = false → g.withoutRings = g
  | .linearRing _, hring => by cases hring
  | .collection members, hring => by rw [withoutRings, membersWithoutRings_eq members hring]
  | .point _, _ | .lineString _, _ | .polygon _, _ | .multiPoint _, _ | .multiLineString _, _
  | .multiPolygon _, _ => rfl

theorem membersWithoutRings_eq :
    (gs : List Geometry) → anyContainsRing gs = false → membersWithoutRings gs = gs
  | [], _ => rfl
  | g :: rest, hring => by
    rw [anyContainsRing, Bool.or_eq_false_iff] at hring
    rw [membersWithoutRings, withoutRings_eq g hring.1, membersWithoutRings_eq rest hring.2]

end

theorem membersWithoutRings_eq_map (gs : List Geometry) :
    membersWithoutRings gs = gs.map withoutRings := by
  induction gs with
  | nil => rfl
  | cons g rest ih => rw [membersWithoutRings, ih, List.map_cons]

theorem geometry_normalized (g : Geometry) : g.normalized.geometry = g.withoutRings := by
  unfold normalized
  cases hring : g.containsRing with
  | true => rfl
  | false => exact (withoutRings_eq g hring).symm

mutual

theorem containsRing_withoutRings : (g : Geometry) → g.withoutRings.containsRing = false
  | .collection members => anyContainsRing_withoutRings members
  | .point _ | .lineString _ | .linearRing _ | .polygon _ | .multiPoint _ | .multiLineString _
  | .multiPolygon _ => rfl

theorem anyContainsRing_withoutRings :
    (gs : List Geometry) → anyContainsRing (membersWithoutRings gs) = false
  | [] => rfl
  | g :: rest => by
    rw [membersWithoutRings, anyContainsRing, containsRing_withoutRings g,
      anyContainsRing_withoutRings rest, Bool.or_self]

end

mutual

theorem containsRing_iff :
    (g : Geometry) → (g.containsRing = true ↔ ∃ path, .linearRing path ∈ g.parts)
  | .linearRing path => ⟨fun _ => ⟨path, List.mem_cons_self⟩, fun _ => rfl⟩
  | .collection members => by
    simp only [containsRing, parts, List.mem_cons, reduceCtorEq, false_or]
    exact anyContainsRing_iff members
  | .point _ | .lineString _ | .polygon _ | .multiPoint _ | .multiLineString _
  | .multiPolygon _ => by simp [containsRing, parts]

theorem anyContainsRing_iff :
    (gs : List Geometry) → (anyContainsRing gs = true ↔ ∃ path, .linearRing path ∈ memberParts gs)
  | [] => by simp [anyContainsRing, memberParts]
  | g :: rest => by
    rw [anyContainsRing, Bool.or_eq_true, containsRing_iff g, anyContainsRing_iff rest]
    simp only [memberParts, List.mem_append, exists_or]

end

/-! ## Part by part -/

theorem kind_withoutRings (g : Geometry) : g.withoutRings.kind = g.kind := by cases g <;> rfl

theorem polygons_withoutRings (g : Geometry) : g.withoutRings.polygons = g.polygons := by
  cases g <;> rfl

mutual

theorem isEmpty_withoutRings : (g : Geometry) → g.withoutRings.isEmpty = g.isEmpty
  | .collection members => allEmpty_withoutRings members
  | .point _ | .lineString _ | .linearRing _ | .polygon _ | .multiPoint _ | .multiLineString _
  | .multiPolygon _ => rfl

theorem allEmpty_withoutRings :
    (gs : List Geometry) → allEmpty (membersWithoutRings gs) = allEmpty gs
  | [] => rfl
  | g :: rest => by
    rw [membersWithoutRings, allEmpty, allEmpty, isEmpty_withoutRings g,
      allEmpty_withoutRings rest]

end

mutual

theorem depth_withoutRings : (g : Geometry) → g.withoutRings.depth = g.depth
  | .collection members => membersDepth_withoutRings members
  | .point _ | .lineString _ | .linearRing _ | .polygon _ | .multiPoint _ | .multiLineString _
  | .multiPolygon _ => rfl

theorem membersDepth_withoutRings :
    (gs : List Geometry) → membersDepth (membersWithoutRings gs) = membersDepth gs
  | [] => rfl
  | g :: rest => by
    rw [membersWithoutRings, membersDepth, membersDepth, depth_withoutRings g,
      membersDepth_withoutRings rest]

end

mutual

theorem parts_withoutRings : (g : Geometry) → g.withoutRings.parts = g.parts.map withoutRings
  | .collection members => congrArg (withoutRings (.collection members) :: ·)
    (memberParts_withoutRings members)
  | .point _ | .lineString _ | .linearRing _ | .polygon _ | .multiPoint _ | .multiLineString _
  | .multiPolygon _ => rfl

theorem memberParts_withoutRings :
    (gs : List Geometry) → memberParts (membersWithoutRings gs) = (memberParts gs).map withoutRings
  | [] => rfl
  | g :: rest => by
    rw [membersWithoutRings, memberParts, memberParts, parts_withoutRings g,
      memberParts_withoutRings rest, List.map_append]

end

mutual

theorem leaves_withoutRings : (g : Geometry) → g.withoutRings.leaves = g.leaves.map withoutRings
  | .collection members => memberLeaves_withoutRings members
  | .point _ | .lineString _ | .linearRing _ | .polygon _ | .multiPoint _ | .multiLineString _
  | .multiPolygon _ => rfl

theorem memberLeaves_withoutRings : (gs : List Geometry) →
    memberLeaves (membersWithoutRings gs) = (memberLeaves gs).map withoutRings
  | [] => rfl
  | g :: rest => by
    rw [membersWithoutRings, memberLeaves, memberLeaves, leaves_withoutRings g,
      memberLeaves_withoutRings rest, List.map_append]

end

mutual

theorem coordinates_withoutRings : (g : Geometry) → g.withoutRings.coordinates = g.coordinates
  | .collection members => memberCoordinates_withoutRings members
  | .point _ | .lineString _ | .linearRing _ | .polygon _ | .multiPoint _ | .multiLineString _
  | .multiPolygon _ => rfl

theorem memberCoordinates_withoutRings :
    (gs : List Geometry) → memberCoordinates (membersWithoutRings gs) = memberCoordinates gs
  | [] => rfl
  | g :: rest => by
    rw [membersWithoutRings, memberCoordinates, memberCoordinates, coordinates_withoutRings g,
      memberCoordinates_withoutRings rest]

end

end SpatialSql.Geometry
