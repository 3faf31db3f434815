import SpatialSql.Proofs.Geometry.Members
import SpatialSql.Proofs.Geometry.Normal
import SpatialSql.Proofs.Geometry.Parts
/-!
# The canonical form

What is left of a geometry on the wire: rings become line strings, a third ordinate that is NaN
becomes absent, and a point whose first two ordinates are NaN becomes the empty point.  All other
ordinates keep their bits.
-/

namespace SpatialSql

/-- The coordinate without a third ordinate that is NaN. -/
def Coordinate.canonical (c : Coordinate) : Coordinate :=
  { c with z := c.z.filter fun z => !z.isNaN }

def Coordinate.isBlank (c : Coordinate) : Bool := c.x.isNaN && c.y.isNaN

def Point.canonical : Point → Point
  | some c => if c.isBlank then none else some c.canonical
  | none => none

def Path.canonical (path : Path) : Path := path.map Coordinate.canonical

def Polygon.canonical (rings : Polygon) : Polygon := rings.map Path.canonical

namespace Geometry

mutual

def canonical : Geometry → Geometry
  | .point p => .point p.canonical
  | .lineString path | .linearRing path => .lineString path.canonical
  | .polygon rings => .polygon rings.canonical
  | .multiPoint points => .multiPoint (points.map Point.canonical)
  | .multiLineString paths => .multiLineString (paths.map Path.canonical)
  | .multiPolygon polygons => .multiPolygon (polygons.map Polygon.canonical)
  | .collection members => .collection (membersCanonical members)
termination_by structural g => g

def membersCanonical : List Geometry → List Geometry
  | [] => []
  | g :: rest => g.canonical :: membersCanonical rest
termination_by structural gs => gs

end

end Geometry

/-! ## Rings -/

theorem Path.isClosed_canonical (path : Path) : path.canonical.isClosed = path.isClosed := by
  have hhead : path.canonical.head? = path.head?.map Coordinate.canonical := List.head?_map
  have hlast : path.canonical.getLast? = path.getLast?.map Coordinate.canonical :=
    List.getLast?_map
  unfold isClosed
  rw [hhead, hlast]
  cases path.head? <;> cases path.getLast? <;> rfl

theorem Path.isRing_canonical (path : Path) : path.canonical.isRing = path.isRing := by
  rw [Bool.eq_iff_iff, isRing_iff, isRing_iff, isClosed_canonical]
  simp [canonical]

/-! ## Geometries that are canonical -/

def Coordinate.IsCanonical (c : Coordinate) : Prop :=
  c.isBlank = false ∧ ∀ z ∈ c.z, z.isNaN = false

instance (c : Coordinate) : Decidable c.IsCanonical :=
  inferInstanceAs (Decidable (c.isBlank = false ∧ ∀ z ∈ c.z, z.isNaN = false))

theorem Coordinate.canonical_eq {c : Coordinate} (hc : c.IsCanonical) : c.canonical = c := by
  obtain ⟨x, y, z⟩ := c
  cases z with
  | none => rfl
  | some z => simp [canonical, hc.2 z rfl]

theorem Point.canonical_eq {p : Point} (hp : ∀ c ∈ p, c.IsCanonical) : p.canonical = p := by
  cases p with
  | none => rfl
  | some c =>
    have hc := hp c rfl
    rw [canonical, hc.1, Coordinate.canonical_eq hc]
    rfl

theorem Path.canonical_eq {path : Path} (hpath : ∀ c ∈ path, c.IsCanonical) :
    path.canonical = path :=
  map_eq_self fun c hc => Coordinate.canonical_eq (hpath c hc)

theorem Polygon.canonical_eq {rings : Polygon} (hrings : ∀ c ∈ rings.flatten, c.IsCanonical) :
    rings.canonical = rings :=
  map_eq_self fun ring hring => Path.canonical_eq fun c hc =>
    hrings c (List.mem_flatten.2 ⟨ring, hring, hc⟩)

namespace Geometry

mutual

theorem canonical_eq_withoutRings : (g : Geometry) → (∀ c ∈ g.coordinates, c.IsCanonical) →
    g.canonical = g.withoutRings
  | .point p, hc => by
    rw [canonical, Point.canonical_eq fun c hp => hc c (by simpa [coordinates] using hp)]
    rfl
  | .lineString path, hc | .linearRing path, hc => congrArg lineString (Path.canonical_eq hc)
  | .polygon rings, hc => congrArg polygon (Polygon.canonical_eq hc)
  | .multiPoint points, hc => by
    rw [canonical, map_eq_self fun p hp => Point.canonical_eq fun c hcp => ?_]
    · rfl
    · exact hc c (List.mem_flatMap.2 ⟨p, hp, by simpa using hcp⟩)
  | .multiLineString paths, hc => by
    rw [canonical, map_eq_self fun path hpath => Path.canonical_eq fun c hcp => ?_]
    · rfl
    · exact hc c (List.mem_flatten.2 ⟨path, hpath, hcp⟩)
  | .multiPolygon polygons, hc => by
    rw [canonical, map_eq_self fun rings hrings => Polygon.canonical_eq fun c hcp => ?_]
    · rfl
    · exact hc c (List.mem_flatMap.2 ⟨rings, hrings, hcp⟩)
  | .collection members, hc =>
    congrArg collection (membersCanonical_eq_withoutRings members hc)

theorem membersCanonical_eq_withoutRings : (gs : List Geometry) →
    (∀ c ∈ memberCoordinates gs, c.IsCanonical) → membersCanonical gs = membersWithoutRings gs
  | [], _ => rfl
  | g :: rest, hc => by
    have hg := canonical_eq_withoutRings g fun c hcg => hc c (List.mem_append_left _ hcg)
    have hrest := membersCanonical_eq_withoutRings rest fun c hcr =>
      hc c (List.mem_append_right _ hcr)
    rw [membersCanonical, membersWithoutRings, hg, hrest]

end

theorem canonical_eq (g : Geometry) (hring : g.containsRing = false)
    (hc : ∀ c ∈ g.coordinates, c.IsCanonical) : g.canonical = g :=
  (canonical_eq_withoutRings g hc).trans (withoutRings_eq g hring)

@[simp] theorem length_membersCanonical (gs : List Geometry) :
    (membersCanonical gs).length = gs.length := by
  induction gs with
  | nil => rfl
  | cons g rest ih => rw [membersCanonical, List.length_cons, List.length_cons, ih]

end Geometry

end SpatialSql
