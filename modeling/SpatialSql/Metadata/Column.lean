import SpatialSql.Geometry.Kind
import SpatialSql.Text.Blank
import SpatialSql.Text.CaseFold
/-!
# Geometry columns

What is known of a geometry column, and what the names and numbers of the database say about
one.
-/

namespace SpatialSql

namespace Geometry.Kind

def nativeKinds : List (String × Kind) :=
  [("ST_GEOMETRY", .generic), ("ST_POINT", .point), ("POINT", .point),
    ("ST_LINESTRING", .lineString), ("ST_POLYGON", .polygon), ("ST_MULTIPOINT", .multiPoint),
    ("ST_MULTILINESTRING", .multiLineString), ("ST_MULTIPOLYGON", .multiPolygon)]

/-- The kind of a database type, by its name in any case and between any white space.  Other
names that begin as those of geometries do are of the generic kind, and the rest of none. -/
def ofNative? (typeName : String) : Option Kind :=
  let name := Text.upper (String.ofList (Text.trim typeName.toList))
  match nativeKinds.lookup name with
  | some kind => some kind
  | none => if ['S', 'T', '_'].isPrefixOf name.toList then some .generic else none

end Geometry.Kind

namespace Metadata

structure GeometryColumn where
  name : String
  kind : Geometry.Kind
  srid : Int32
  nativeName : String
  deriving DecidableEq

def defaultSrid : Int32 := 4326

/-- Reference systems are stored with this number added to flag that they are rounded. -/
def roundingFlag : Int := 1000000000

/-- A reference system without its flag, in 32 bits. -/
def foldSrid (raw : Int64) : Int32 :=
  let raw := raw.toInt
  Int32.ofInt (if roundingFlag ≤ raw then raw % roundingFlag else raw)

end Metadata

end SpatialSql
