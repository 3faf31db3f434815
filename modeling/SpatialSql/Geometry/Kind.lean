/-!
# Kinds of geometry

The closed set of kinds a column can be declared with, their names and their type codes.
-/

namespace SpatialSql

/-- `generic` is the kind of a spatial column whose subtype is not known. -/
inductive Geometry.Kind where
  | generic
  | point
  | lineString
  | polygon
  | multiPoint
  | multiLineString
  | multiPolygon
  | collection
  deriving DecidableEq

namespace Geometry.Kind

def all : List Kind :=
  [.generic, .point, .lineString, .polygon, .multiPoint, .multiLineString, .multiPolygon,
    .collection]

def name : Kind → String
  | .generic => "Geometry"
  | .point => "Point"
  | .lineString => "LineString"
  | .polygon => "Polygon"
  | .multiPoint => "MultiPoint"
  | .multiLineString => "MultiLineString"
  | .multiPolygon => "MultiPolygon"
  | .collection => "GeometryCollection"

def code : Kind → Nat
  | .generic => 0
  | .point => 1
  | .lineString => 2
  | .polygon => 3
  | .multiPoint => 4
  | .multiLineString => 5
  | .multiPolygon => 6
  | .collection => 7

/-- The concrete kind with a type code; `generic` is none. -/
def ofCode? : Nat → Option Kind
  | 1 => some .point
  | 2 => some .lineString
  | 3 => some .polygon
  | 4 => some .multiPoint
  | 5 => some .multiLineString
  | 6 => some .multiPolygon
  | 7 => some .collection
  | _ => none

def nativeName : Kind → String
  | .point => "ST_Point"
  | .lineString => "ST_LineString"
  | .polygon => "ST_Polygon"
  | .multiPoint => "ST_MultiPoint"
  | .multiLineString => "ST_MultiLineString"
  | .multiPolygon => "ST_MultiPolygon"
  | .generic | .collection => "ST_Geometry"

end Geometry.Kind

end SpatialSql
