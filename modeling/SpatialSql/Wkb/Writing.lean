import SpatialSql.Wkb.Format
/-!
# Writing the binary format

One byte order and one choice of dimensions hold for a whole geometry: when any coordinate has a
third ordinate all are written with one, NaN where it is missing.  The empty point is written as
NaN, and a linear ring as a line string.
-/

namespace SpatialSql.Wkb

/-- What is the same for all parts of one geometry. -/
structure Layout where
  order : ByteOrder
  z : Bool
  deriving DecidableEq

namespace Layout

def header (l : Layout) (kind : Geometry.Kind) (srid : Option Int32) : List UInt8 :=
  l.order.marker :: l.order.encode (typeCode kind l.z srid.isSome) 4
    ++ match srid with
      | some srid => l.order.encode srid.toUInt32.toNat 4
      | none => []

/-- The number of items, of which the format keeps 32 bits. -/
def count (l : Layout) (items : List α) : List UInt8 :=
  l.order.encode (items.length % 0x100000000) 4

def ordinate (l : Layout) (x : Binary64) : List UInt8 := l.order.encode x.bits.toNat 8

def coordinate (l : Layout) (c : Coordinate) : List UInt8 :=
  l.ordinate c.x ++ l.ordinate c.y ++ if l.z then l.ordinate (c.z.getD .nan) else []

def point (l : Layout) : Point → List UInt8
  | some c => l.coordinate c
  | none => l.coordinate ⟨.nan, .nan, none⟩

def path (l : Layout) (path : Path) : List UInt8 := l.count path ++ path.flatMap l.coordinate

def polygon (l : Layout) (rings : Polygon) : List UInt8 := l.count rings ++ rings.flatMap l.path

/-- Members of one kind, each behind a header of its own. -/
def members (l : Layout) (kind : Geometry.Kind) (write : α → List UInt8) (items : List α) :
    List UInt8 :=
  l.count items ++ items.flatMap fun item => l.header kind none ++ write item

mutual

def body (l : Layout) : Geometry → List UInt8
  | .point p => l.point p
  | .lineString path | .linearRing path => l.path path
  | .polygon rings => l.polygon rings
  | .multiPoint points => l.members .point l.point points
  | .multiLineString paths => l.members .lineString l.path paths
  | .multiPolygon polygons => l.members .polygon l.polygon polygons
  | .collection members => l.count members ++ l.collected members
termination_by structural g => g

def collected (l : Layout) : List Geometry → List UInt8
  | [] => []
  | g :: rest => l.header g.kind none ++ l.body g ++ l.collected rest
termination_by structural gs => gs

end

end Layout

def encode (order : ByteOrder) (g : Geometry) (srid : Option Int32) : List UInt8 :=
  let layout : Layout := ⟨order, g.hasZ⟩
  layout.header g.kind srid ++ layout.body g

end SpatialSql.Wkb
