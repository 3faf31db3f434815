import Mathlib.Algebra.Group.Nat.Defs
import SpatialSql.Geometry.Basic
import SpatialSql.Proofs.Geometry.Ring
/-!
# Parts of geometries

The rings and the lists in a geometry at any depth, and what is asked of a geometry whose rings
went through `Path.ring` and whose lists can be counted in 32 bits.
-/

namespace SpatialSql.Geometry

mutual

/-- Every path that has to be a ring. -/
def rings : Geometry → List Path
  | .linearRing path => [path]
  | .polygon rings => rings
  | .multiPolygon polygons => polygons.flatten
  | .collection members => memberRings members
  | .point _ | .lineString _ | .multiPoint _ | .multiLineString _ => []
termination_by structural g => g

def memberRings : List Geometry → List Path
  | [] => []
  | g :: rest => g.rings ++ memberRings rest
termination_by structural gs => gs

end

def pathLengths (paths : List Path) : List Nat := paths.length :: paths.map List.length

mutual

def lengths : Geometry → List Nat
  | .point _ => []
  | .lineString path | .linearRing path => [path.length]
  | .polygon rings => pathLengths rings
  | .multiPoint points => [points.length]
  | .multiLineString paths => pathLengths paths
  | .multiPolygon polygons => polygons.length :: polygons.flatMap pathLengths
  | .collection members => members.length :: memberLengths members
termination_by structural g => g

def memberLengths : List Geometry → List Nat
  | [] => []
  | g :: rest => g.lengths ++ memberLengths rest
termination_by structural gs => gs

end

mutual

/-- The levels below a geometry: one for each collection around a part, and one for the members of
a geometry of many parts. -/
def nesting : Geometry → Nat
  | .point _ | .lineString _ | .linearRing _ | .polygon _ => 0
  | .multiPoint points => if points.isEmpty then 0 else 1
  | .multiLineString paths => if paths.isEmpty then 0 else 1
  | .multiPolygon polygons => if polygons.isEmpty then 0 else 1
  | .collection members => memberNesting members
termination_by structural g => g

def memberNesting : List Geometry → Nat
  | [] => 0
  | g :: rest => Nat.max (g.nesting + 1) (memberNesting rest)
termination_by structural gs => gs

end

def HasRings (g : Geometry) : Prop := ∀ ring ∈ g.rings, ring.isRing = true

def IsCountable (g : Geometry) : Prop := ∀ n ∈ g.lengths, n < 2 ^ 32

theorem kind_ne_generic (g : Geometry) : g.kind ≠ .generic := by
  cases g <;> simp [kind]

instance (g : Geometry) : Decidable g.HasRings :=
  inferInstanceAs (Decidable (∀ ring ∈ g.rings, ring.isRing = true))

instance (g : Geometry) : Decidable g.IsCountable :=
  inferInstanceAs (Decidable (∀ n ∈ g.lengths, n < 2 ^ 32))

end SpatialSql.Geometry
