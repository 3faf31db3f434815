import SpatialSql.Geometry.Basic
/-!
# Writing well-known text

The spacing is that of the database: `POINT (1 2)`, `POLYGON ((0 0, 0 1, 1 1, 0 0))`,
`POINT Z (1 2 3)`.  A geometry is written in three dimensions when every coordinate in it has a
third ordinate.
-/

namespace SpatialSql.Wkt

def tagOf : Geometry → String
  | .point _ => "POINT"
  | .lineString _ => "LINESTRING"
  | .linearRing _ => "LINEARRING"
  | .polygon _ => "POLYGON"
  | .multiPoint _ => "MULTIPOINT"
  | .multiLineString _ => "MULTILINESTRING"
  | .multiPolygon _ => "MULTIPOLYGON"
  | .collection _ => "GEOMETRYCOLLECTION"

/-- Whether there are coordinates and all of them have a third ordinate. -/
def isSpatial (g : Geometry) : Bool := !g.coordinates.isEmpty && g.coordinates.all Coordinate.hasZ

def writeList (items : List String) : String := "(" ++ ", ".intercalate items ++ ")"

def writeCoordinate (z : Bool) (c : Coordinate) : String :=
  c.x.plain ++ " " ++ c.y.plain ++ if z then " " ++ (c.z.getD .nan).plain else ""

def writePoint (z : Bool) : Point → String
  | some c => "(" ++ writeCoordinate z c ++ ")"
  | none => "EMPTY"

def writePath (z : Bool) (path : Path) : String :=
  if List.isEmpty path then "EMPTY" else writeList (path.map (writeCoordinate z))

def writePolygon (z : Bool) (rings : Polygon) : String :=
  if rings.isEmpty then "EMPTY" else writeList (rings.map (writePath z))

/-- A geometry with its tag, given what stands behind the tag when it is not empty. -/
def framed (g : Geometry) (body : (z : Bool) → String) : String :=
  tagOf g ++ (if isSpatial g then " Z" else "") ++ " "
    ++ if g.isEmpty then "EMPTY" else body (isSpatial g)

mutual

def write : Geometry → String
  | .point p => framed (.point p) fun z => writePoint z p
  | .lineString path => framed (.lineString path) fun z => writePath z path
  | .linearRing path => framed (.linearRing path) fun z => writePath z path
  | .polygon rings => framed (.polygon rings) fun z => writePolygon z rings
  | .multiPoint points => framed (.multiPoint points) fun z => writeList (points.map (writePoint z))
  | .multiLineString paths =>
    framed (.multiLineString paths) fun z => writeList (paths.map (writePath z))
  | .multiPolygon polygons =>
    framed (.multiPolygon polygons) fun z => writeList (polygons.map (writePolygon z))
  | .collection members => framed (.collection members) fun _ => writeList (writeMembers members)
termination_by structural g => g

def writeMembers : List Geometry → List String
  | [] => []
  | g :: rest => write g :: writeMembers rest
termination_by structural gs => gs

end

end SpatialSql.Wkt
