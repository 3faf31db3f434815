import SpatialSql.Catalog.Script
import SpatialSql.Settings.Basic
import SpatialSql.Text.Quoted
/-!
# Catalogs in memory

A catalog that answers the statements asked about geometry columns from what was registered with
it.  It takes the names of schema, table and column from the three quoted texts of a statement,
and records every statement, answered or not.
-/

namespace SpatialSql.Catalog

structure Registration where
  typeName : String
  srid : Int64
  deriving DecidableEq

structure Memory where
  tables : List Table
  registrations : List (ColumnKey × Registration)
  extents : List (ColumnKey × String)
  statements : List String
  failing : Bool
  deriving DecidableEq

namespace Memory

def empty : Memory := ⟨[], [], [], [], false⟩

/-! ## Changes -/

def addTable (m : Memory) (table : Table) : Memory := { m with tables := m.tables ++ [table] }

/-- A later registration of a column hides an earlier one. -/
def register (m : Memory) (key : ColumnKey) (registration : Registration) : Memory :=
  { m with registrations := (key, registration) :: m.registrations }

def setExtent (m : Memory) (key : ColumnKey) (extent : String) : Memory :=
  { m with extents := (key, extent) :: m.extents }

def setFailing (m : Memory) (failing : Bool) : Memory := { m with failing }

/-- Forgets all but whether the catalog fails. -/
def clear (m : Memory) : Memory := { empty with failing := m.failing }

def record (m : Memory) (calls : List Call) : Memory :=
  let statement? : Call → Option String
    | .query sql => some sql
    | .columns _ _ _ => none
  { m with statements := m.statements ++ calls.filterMap statement? }

/-! ## Answers -/

def unavailable : Error := .of .catalog "catalog unavailable"

def unexpected (sql : String) : Error := .of .catalog ("unexpected statement: " ++ sql)

def guarded (m : Memory) (answer : α) : Except Error α :=
  if m.failing then .error unavailable else .ok answer

def tableTypes (m : Memory) : Except Error (List String) := m.guarded ["TABLE", "VIEW"]

/-- Whether a name fits a pattern: the percent sign fits every name, any other pattern itself. -/
def fits (pattern name : String) : Bool := pattern == "%" || pattern == name

def listTables (m : Memory) (schema : Option String) (table : String) :
    Except Error (List TableListing) :=
  m.guarded <|
    (m.tables.filter fun t => schema.all (fits · t.schema) && fits table t.name).map fun t =>
      ⟨some t.schema, t.name, "TABLE"⟩

/-- The columns of the first table with a name. -/
def listColumns (m : Memory) (schema table pattern : String) :
    Except Error (List ColumnListing) :=
  m.guarded <|
    match m.tables.find? fun t => t.schema == schema && t.name == table with
    | some t => t.listing.filter fun column => fits pattern column.name
    | none => []

def subject? (sql : String) : Option ColumnKey :=
  match Text.quotedParts '\'' none sql.toList with
  | [schema, table, column] => some ⟨schema, table, column⟩
  | _ => none

def single (name : String) (value : Scalar) : List Row := [Row.empty.set name value]

def answer (m : Memory) (sql : String) : Except Error (List Row) :=
  if m.failing then .error unavailable
  else
    match subject? sql with
    | none => .error (unexpected sql)
    | some key =>
      if Text.occursIn "ST_Estimated_Extent" sql then
        match m.extents.lookup key with
        | some extent => .ok (single "EXTENT" (.text extent))
        | none => .ok []
      else
        match m.registrations.lookup key with
        | none => .ok []
        | some registration =>
          if Text.startsWith "SELECT SRS_ID" sql then
            .ok (single "SRS_ID" (.int64 registration.srid))
          else if Text.startsWith "SELECT DATA_TYPE_NAME" sql then
            .ok (single "DATA_TYPE_NAME" (.text registration.typeName))
          else .error (unexpected sql)

def probe (m : Memory) : Probe where
  query := m.answer
  columns := m.listColumns

/-! ## A sample -/

/-- Roads as line strings in a generic column, whose reference system is registered with the
rounding flag, and cities as points that are not registered. -/
def sample : Memory :=
  let key : ColumnKey := ⟨"GIS", "ROADS", "SHAPE"⟩
  let tables : List Table :=
    [⟨"GIS", "ROADS", [("ID", "BIGINT"), ("NAME", "NVARCHAR"), ("SHAPE", "ST_GEOMETRY")]⟩,
      ⟨"GIS", "CITIES", [("ID", "INTEGER"), ("LOCATION", "ST_POINT")]⟩,
      ⟨"GIS", "ST_GEOMETRY_COLUMNS", [("SCHEMA_NAME", "NVARCHAR"), ("SRS_ID", "INTEGER")]⟩]
  ((tables.foldl addTable empty).register key ⟨"ST_LINESTRING", 1000004326⟩).setExtent key
    "POLYGON ((0 0, 10 0, 10 5, 0 5, 0 0))"

def sampleSettings : Settings := Settings.default.withSchema "GIS"

end Memory

end SpatialSql.Catalog
