import SpatialSql.Geometry.Basic
import SpatialSql.Tree.Basic
/-!
# Geometries and envelopes as trees

Reading does not check rings.  The null envelope is stored as null, and bounds that are absent
are left out.
-/

namespace SpatialSql

def Coordinate.toTree (c : Coordinate) : Tree :=
  .object [("x", .ofNumber c.x), ("y", .ofNumber c.y), ("z", .ofOption .ofNumber c.z)]

def Coordinate.ofTree? (t : Tree) : Option Coordinate := do
  match ← t.record? ["x", "y", "z"] 3 with
  | [x, y, z] =>
    return ⟨← Tree.required Tree.number? x, ← Tree.required Tree.number? y,
      ← Tree.optional Tree.number? z⟩
  | _ => none

def Point.toTree (p : Point) : Tree := .object [("coordinate", .ofOption Coordinate.toTree p)]

def Point.ofTree? (t : Tree) : Option Point := do
  Tree.optional Coordinate.ofTree? (← t.onlyField? "coordinate")

def Path.toTree (path : Path) : Tree := .object [("coordinates", .ofList Coordinate.toTree path)]

def Path.ofTree? (t : Tree) : Option Path := do
  Tree.required (Tree.list? Coordinate.ofTree?) (← t.onlyField? "coordinates")

def Polygon.toTree (rings : Polygon) : Tree := .object [("rings", .ofList Path.toTree rings)]

def Polygon.ofTree? (t : Tree) : Option Polygon := do
  Tree.required (Tree.list? Path.ofTree?) (← t.onlyField? "rings")

namespace Geometry

mutual

def toTree : Geometry → Tree
  | .point p => .tagged "Point" (Point.toTree p)
  | .lineString path => .tagged "LineString" (Path.toTree path)
  | .linearRing path => .tagged "LinearRing" (Path.toTree path)
  | .polygon rings => .tagged "Polygon" (Polygon.toTree rings)
  | .multiPoint points => .tagged "MultiPoint" (.ofList Point.toTree points)
  | .multiLineString paths => .tagged "MultiLineString" (.ofList Path.toTree paths)
  | .multiPolygon polygons => .tagged "MultiPolygon" (.ofList Polygon.toTree polygons)
  | .collection members => .tagged "GeometryCollection" (.array (membersToTree members))
termination_by structural g => g

def membersToTree : List Geometry → List Tree
  | [] => []
  | g :: rest => g.toTree :: membersToTree rest
termination_by structural gs => gs

end

def simpleOfTree? (tag : String) (value : Tree) : Option Geometry :=
  match tag with
  | "Point" => (Point.ofTree? value).map .point
  | "LineString" => (Path.ofTree? value).map .lineString
  | "LinearRing" => (Path.ofTree? value).map .linearRing
  | "Polygon" => (Polygon.ofTree? value).map .polygon
  | "MultiPoint" => (value.list? Point.ofTree?).map .multiPoint
  | "MultiLineString" => (value.list? Path.ofTree?).map .multiLineString
  | "MultiPolygon" => (value.list? Polygon.ofTree?).map .multiPolygon
  | _ => none

mutual

def ofTree? : Tree → Option Geometry
  | .object [("GeometryCollection", .array members)] =>
    (membersOfTree? members).map .collection
  | .object [(tag, value)] => simpleOfTree? tag value
  | _ => none
termination_by structural t => t

def membersOfTree? : List Tree → Option (List Geometry)
  | [] => some []
  | t :: rest => do
    let g ← ofTree? t
    let others ← membersOfTree? rest
    return g :: others
termination_by structural ts => ts

end

end Geometry

namespace Geometry.Kind

/-- The name of the alternative in a document. -/
def treeName : Kind → String
  | .generic => "Generic"
  | kind => kind.name

def toTree (kind : Kind) : Tree := .text kind.treeName

def ofTree? (t : Tree) : Option Kind := do
  let name ← t.name?
  all.find? fun kind => kind.treeName == name

end Geometry.Kind

namespace Envelope

def toTree (e : Envelope) : Tree :=
  let bound (name : String) : Option Binary64 → List (String × Tree)
    | some x => [(name, .ofNumber x)]
    | none => []
  if e.isNull then .null
  else .object
    ([("min_x", .ofNumber e.minX), ("min_y", .ofNumber e.minY), ("max_x", .ofNumber e.maxX),
      ("max_y", .ofNumber e.maxY)] ++ bound "min_z" e.minZ ++ bound "max_z" e.maxZ)

def ofBounds? (t : Tree) : Option Envelope := do
  match ← t.record? ["min_x", "min_y", "max_x", "max_y", "min_z", "max_z"] 4 with
  | [minX, minY, maxX, maxY, minZ, maxZ] =>
    return ⟨← Tree.required Tree.number? minX, ← Tree.required Tree.number? minY,
      ← Tree.required Tree.number? maxX, ← Tree.required Tree.number? maxY,
      ← Tree.optional Tree.number? minZ, ← Tree.optional Tree.number? maxZ⟩
  | _ => none

def ofTree? (t : Tree) : Option Envelope :=
  match t with
  | .null => some null
  | t => ofBounds? t

end Envelope

end SpatialSql
