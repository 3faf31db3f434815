import SpatialSql.Geometry.Basic
/-!
# Members of collections

How deep collections are nested, and the parts of a geometry: itself and everything that it
collects at some depth.
-/

namespace SpatialSql

theorem map_eq_self {f : α → α} {items : List α} (h : ∀ a ∈ items, f a = a) :
    items.map f = items :=
  calc items.map f = items.map id := List.map_congr_left h
    _ = items := List.map_id items

namespace Geometry

mutual

def depth : Geometry → Nat
  | .collection members => membersDepth members
  | .point _ | .lineString _ | .linearRing _ | .polygon _ | .multiPoint _ | .multiLineString _
  | .multiPolygon _ => 0
termination_by structural g => g

def membersDepth : List Geometry → Nat
  | [] => 0
  | g :: rest => Nat.max (g.depth + 1) (membersDepth rest)
termination_by structural gs => gs

end

theorem membersDepth_le {gs : List Geometry} {n : Nat} (h : ∀ g ∈ gs, g.depth < n) :
    membersDepth gs ≤ n := by
  induction gs with
  | nil => exact Nat.zero_le n
  | cons g rest ih =>
    rw [List.forall_mem_cons] at h
    exact Nat.max_le.2 ⟨h.1, ih h.2⟩

mutual

/-- The geometry and, if it is a collection, the parts of its members. -/
def parts : Geometry → List Geometry
  | .collection members => .collection members :: memberParts members
  | g => [g]
termination_by structural g => g

def memberParts : List Geometry → List Geometry
  | [] => []
  | g :: rest => g.parts ++ memberParts rest
termination_by structural gs => gs

end

theorem mem_parts_self (g : Geometry) : g ∈ g.parts := by
  cases g <;> exact List.mem_cons_self

mutual

/-- The parts that are no collections, in the order of their coordinates. -/
def leaves : Geometry → List Geometry
  | .collection members => memberLeaves members
  | g => [g]
termination_by structural g => g

def memberLeaves : List Geometry → List Geometry
  | [] => []
  | g :: rest => g.leaves ++ memberLeaves rest
termination_by structural gs => gs

end

mutual

theorem coordinates_eq_flatMap_leaves :
    (g : Geometry) → g.coordinates = g.leaves.flatMap coordinates
  | .collection members => memberCoordinates_eq_flatMap_leaves members
  | .point _ | .lineString _ | .linearRing _ | .polygon _ | .multiPoint _ | .multiLineString _
  | .multiPolygon _ => (List.flatMap_singleton coordinates _).symm

theorem memberCoordinates_eq_flatMap_leaves :
    (gs : List Geometry) → memberCoordinates gs = (memberLeaves gs).flatMap coordinates
  | [] => rfl
  | g :: rest => by
    rw [memberCoordinates, coordinates_eq_flatMap_leaves g,
      memberCoordinates_eq_flatMap_leaves rest, memberLeaves, List.flatMap_append]

end

theorem memberCoordinates_eq_flatMap (gs : List Geometry) :
    memberCoordinates gs = gs.flatMap coordinates := by
  induction gs with
  | nil => rfl
  | cons g rest ih => rw [memberCoordinates, ih, List.flatMap_cons]

def polygons : Geometry → List Polygon
  | .polygon rings => [rings]
  | .multiPolygon polygons => polygons
  | .point _ | .lineString _ | .linearRing _ | .multiPoint _ | .multiLineString _
  | .collection _ => []

def hasMembers : Geometry → Bool
  | .multiPoint points => !points.isEmpty
  | .multiLineString paths => !paths.isEmpty
  | .multiPolygon polygons => !polygons.isEmpty
  | .collection members => !members.isEmpty
  | .point _ | .lineString _ | .linearRing _ | .polygon _ => false

end Geometry

end SpatialSql
