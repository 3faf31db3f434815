import SpatialSql.Catalog.Probe
import SpatialSql.Text.Search
/-!
# Scripted catalogs

A catalog whose answers are written down: each answer belongs to the statements that have some
text in them.
-/

namespace SpatialSql.Catalog

structure Table where
  schema : String
  name : String
  columns : List (String × String)
  deriving DecidableEq

def Table.listing (table : Table) : List ColumnListing :=
  table.columns.map fun (name, typeName) => .of table.schema table.name name typeName

structure Script where
  /-- A statement gets the first answer whose text occurs in it. -/
  answers : List (String × Except Error (List Row))
  tables : List Table
  /-- Makes every listing of columns fail. -/
  listingError : Option Error

namespace Script

def query (script : Script) (sql : String) : Except Error (List Row) :=
  match script.answers.find? fun (part, _) => Text.occursIn part sql with
  | some (_, answer) => answer
  | none => .ok []

def columns (script : Script) (schema table : String) : Except Error (List ColumnListing) :=
  match script.listingError with
  | some error => .error error
  | none =>
    match script.tables.find? fun t => t.schema == schema && t.name == table with
    | some t => .ok t.listing
    | none => .ok []

def probe (script : Script) : Probe where
  query := script.query
  columns schema table _ := script.columns schema table

end Script

end SpatialSql.Catalog
