import SpatialSql.Catalog.Probe
import SpatialSql.Envelope
import SpatialSql.Metadata.Column
import SpatialSql.Sql
import SpatialSql.Wkt.Reading
/-!
# Statements about geometry columns

What the catalog is asked about a geometry column, and what its answers say.  An answer is the
first cell of the first row.
-/

namespace SpatialSql.Metadata

open Catalog (ColumnKey)

def viewName : String := "ST_GEOMETRY_COLUMNS"

def fieldStatement (field : String) (key : ColumnKey) : String :=
  "SELECT " ++ field ++ " FROM " ++ viewName ++ " WHERE SCHEMA_NAME=" ++ Sql.string key.schema
    ++ " AND TABLE_NAME=" ++ Sql.string key.table ++ " AND COLUMN_NAME=" ++ Sql.string key.column

def kindStatement (key : ColumnKey) : String := fieldStatement "DATA_TYPE_NAME" key

def sridStatement (key : ColumnKey) : String := fieldStatement "SRS_ID" key

def extentStatement (key : ColumnKey) : String :=
  "SELECT ST_AsText(ST_force_2d(ST_Envelope(ST_Estimated_Extent(" ++ Sql.string key.schema ++ ", "
    ++ Sql.string key.table ++ ", " ++ Sql.string key.column ++ "))))"

/-! ## Answers -/

/-- The kind that an answer names; a failure names none. -/
def kindOfAnswer : Except Error (List Row) → Option Geometry.Kind
  | .ok (row :: _) =>
    match row.text (.position 0) with
    | .ok (some name) => Geometry.Kind.ofNative? name
    | _ => none
  | _ => none

/-- The reference system that an answer names; anything else gives the default. -/
def sridOfAnswer : Except Error (List Row) → Int32
  | .ok (row :: _) =>
    match row.integer (.position 0) with
    | .ok (some raw) => foldSrid raw
    | _ => defaultSrid
  | _ => defaultSrid

inductive Estimate where
  | failed
  | missing
  | found (extent : Envelope)
  deriving DecidableEq

/-- The extent in a text; a text without coordinates has none. -/
def estimateOfText (text : String) : Estimate :=
  match Wkt.read text with
  | .ok g => if g.envelope.isNull then .missing else .found g.envelope
  | .error _ => .failed

def estimateOfAnswer : Except Error (List Row) → Estimate
  | .error _ => .failed
  | .ok [] => .missing
  | .ok (row :: _) =>
    match row.text (.position 0) with
    | .ok (some text) => estimateOfText text
    | .ok none => .missing
    | .error _ => .failed

end SpatialSql.Metadata
