import SpatialSql.Filter.Compile
import SpatialSql.Metadata.Resolver
import SpatialSql.Wkb.Codec
/-!
# The dialect

What a data-access layer asks for while it builds and reads queries: select lists, literals,
conditions, bindings of column types and metadata, under one set of settings.
-/

namespace SpatialSql

inductive ScalarType where
  | uuid
  | text
  | long
  | integer
  | boolean
  | double
  | float
  | short
  | time
  | timestamp
  deriving DecidableEq

def ScalarType.name : ScalarType → String
  | .uuid => "Uuid"
  | .text => "String"
  | .long => "Long"
  | .integer => "Integer"
  | .boolean => "Boolean"
  | .double => "Double"
  | .float => "Float"
  | .short => "Short"
  | .time => "Time"
  | .timestamp => "Timestamp"

inductive Binding where
  | geometry (kind : Geometry.Kind)
  | scalar (type : ScalarType)
  deriving DecidableEq

inductive Hint where
  | geometrySimplification
  deriving DecidableEq

def Hint.name : Hint → String
  | .geometrySimplification => "GeometrySimplification"

structure Dialect where
  settings : Settings
  resolver : Metadata.Resolver
  deriving DecidableEq

namespace Dialect

open Catalog (Asked Probe)

def ofSettings (settings : Settings) : Dialect := ⟨settings, .empty⟩

def literals : Sql.LiteralSyntax := .escaped

def compiler (d : Dialect) : Filter.Compiler := ⟨literals, d.settings.looseBoundingBox⟩

def hints (d : Dialect) : List Hint := if d.settings.simplify then [.geometrySimplification] else []

/-! ## Writing -/

/-- Selects a geometry column in the binary format: extended, or plain and in the plane. -/
def selectColumn (qualifier : Option String) (column : String) (planar : Bool) : String :=
  Sql.qualified qualifier column ++ if planar then ".ST_AsWKB()" else ".ST_AsEWKB()"

def selectEnvelope (column : String) : String :=
  Sql.identifier column ++ ".ST_Envelope().ST_AsText()"

/-- A geometry as a constructor call, with its reference system when that is positive.  A
geometry that is absent or empty is null. -/
def geometryLiteral (geometry : Option Geometry) (srid : Int32) : String :=
  match geometry.filter fun g => !g.isEmpty with
  | none => "NULL"
  | some g =>
    let g := g.normalized.geometry
    "NEW " ++ g.kind.nativeName ++ "(" ++ Sql.string (Wkt.write g)
      ++ (if 0 < srid.toInt then ", " ++ toString srid.toInt else "") ++ ")"

/-! ## Reading -/

/-- The envelope in a selected text; a null has contributed nothing. -/
def readEnvelope : Option String → Except Wkt.Fault Envelope
  | none => .ok .null
  | some text => do return (← Wkt.read text).envelope

/-- Whether a table holds features; the view of geometry columns does not. -/
def includesTable (table : String) : Bool := !Text.eqFolded table Metadata.viewName

def scalarTypes : List (String × ScalarType) :=
  [("TEXT", .text), ("VARCHAR", .text), ("BIGINT", .long), ("INTEGER", .integer),
    ("BOOLEAN", .boolean), ("DOUBLE", .double), ("REAL", .float), ("DECIMAL", .float),
    ("SMALLINT", .short), ("TIME", .time), ("TIMESTAMP", .timestamp)]

/-- The binding of a column of some database type.  Of a generic geometry column the resolver is
asked for the kind. -/
def binding (d : Dialect) (probe : Probe) (schema : Option String)
    (table column typeName : String) : Asked (Option Binding × Dialect) :=
  if Text.eqFolded typeName "uuid" then pure (some (.scalar .uuid), d)
  else
    match Geometry.Kind.ofNative? typeName with
    | some .generic => do
      let (found, resolver) ← d.resolver.subtype probe d.settings schema table column
      return (some (.geometry (found.getD .generic)), { d with resolver })
    | some kind => pure (some (.geometry kind), d)
    | none => pure ((scalarTypes.lookup (Text.upper typeName)).map .scalar, d)

end Dialect

def Wkt.Fault.toFailure (fault : Wkt.Fault) : Failure := .textParse fault.message

def RingFault.toFailure (fault : RingFault) : Failure := .invalidOperation fault.message

def Filter.DistanceFault.toFailure (fault : Filter.DistanceFault) : Failure :=
  .invalidOperation fault.message

end SpatialSql
