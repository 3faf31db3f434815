import SpatialSql.Envelope
import SpatialSql.Geometry.Kind
/-!
# Geometries

Values built by a reader or by a caller and not changed afterwards.  A geometry is empty through
having no coordinates: an absent point, an empty path, a polygon without an exterior.
-/

namespace SpatialSql

/-- A position, or none for the empty point. -/
abbrev Point := Option Coordinate

/-- Rings, the exterior first and then the holes. -/
abbrev Polygon := List Path

inductive Geometry where
  | point (p : Point)
  | lineString (path : Path)
  | linearRing (path : Path)
  | polygon (rings : Polygon)
  | multiPoint (points : List Point)
  | multiLineString (paths : List Path)
  | multiPolygon (polygons : List Polygon)
  | collection (members : List Geometry)

namespace Polygon

def exterior? (rings : Polygon) : Option Path := rings.head?

def interiors (rings : Polygon) : List Path := rings.tail

/-- A polygon is as empty as its exterior, whatever its holes. -/
def isEmpty (rings : Polygon) : Bool :=
  match rings.exterior? with
  | some ring => List.isEmpty ring
  | none => true

end Polygon

namespace Geometry

def ofShell (shell : Path) : Except RingFault Geometry := do
  let ring ← Path.ring shell
  return .polygon [ring]

/-- The rectangle between two corners, given in any order. -/
def rectangle (x₀ y₀ x₁ y₁ : Binary64) : Geometry :=
  let e := Envelope.ofCorners x₀ y₀ x₁ y₁
  .polygon [[.planar e.minX e.minY, .planar e.minX e.maxY, .planar e.maxX e.maxY,
    .planar e.maxX e.minY, .planar e.minX e.minY]]

/-- A linear ring is of the kind of line strings. -/
def kind : Geometry → Kind
  | .point _ => .point
  | .lineString _ | .linearRing _ => .lineString
  | .polygon _ => .polygon
  | .multiPoint _ => .multiPoint
  | .multiLineString _ => .multiLineString
  | .multiPolygon _ => .multiPolygon
  | .collection _ => .collection

mutual

def isEmpty : Geometry → Bool
  | .point p => p.isNone
  | .lineString path | .linearRing path => List.isEmpty path
  | .polygon rings => rings.isEmpty
  | .multiPoint points => points.all Option.isNone
  | .multiLineString paths => paths.all List.isEmpty
  | .multiPolygon polygons => polygons.all Polygon.isEmpty
  | .collection members => allEmpty members
termination_by structural g => g

def allEmpty : List Geometry → Bool
  | [] => true
  | g :: rest => g.isEmpty && allEmpty rest
termination_by structural gs => gs

end

mutual

/-- Every coordinate, in the order in which the parts are stored. -/
def coordinates : Geometry → List Coordinate
  | .point p => p.toList
  | .lineString path | .linearRing path => path
  | .polygon rings => rings.flatten
  | .multiPoint points => points.flatMap Option.toList
  | .multiLineString paths => paths.flatten
  | .multiPolygon polygons => polygons.flatMap List.flatten
  | .collection members => memberCoordinates members
termination_by structural g => g

def memberCoordinates : List Geometry → List Coordinate
  | [] => []
  | g :: rest => g.coordinates ++ memberCoordinates rest
termination_by structural gs => gs

end

def hasZ (g : Geometry) : Bool := g.coordinates.any Coordinate.hasZ

def envelope (g : Geometry) : Envelope := .ofCoordinates g.coordinates

/-! ## Rings as line strings -/

mutual

/-- Whether the geometry is a linear ring or collects one at some depth. -/
def containsRing : Geometry → Bool
  | .linearRing _ => true
  | .collection members => anyContainsRing members
  | _ => false
termination_by structural g => g

def anyContainsRing : List Geometry → Bool
  | [] => false
  | g :: rest => g.containsRing || anyContainsRing rest
termination_by structural gs => gs

end

mutual

/-- The geometry with every linear ring turned into the line string along it. -/
def withoutRings : Geometry → Geometry
  | .linearRing path => .lineString path
  | .collection members => .collection (membersWithoutRings members)
  | g => g
termination_by structural g => g

def membersWithoutRings : List Geometry → List Geometry
  | [] => []
  | g :: rest => g.withoutRings :: membersWithoutRings rest
termination_by structural gs => gs

end

/-- What stands for a geometry: the geometry itself, or one built in its place. -/
inductive Form where
  | borrowed (g : Geometry)
  | rebuilt (g : Geometry)

def Form.geometry : Form → Geometry
  | .borrowed g | .rebuilt g => g

/-- The form sent to the database, which has no linear rings.  Nothing is built for a geometry
without one. -/
def normalized (g : Geometry) : Form :=
  if g.containsRing then .rebuilt g.withoutRings else .borrowed g

end Geometry

end SpatialSql
