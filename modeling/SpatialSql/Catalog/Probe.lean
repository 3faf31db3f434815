import SpatialSql.Error
import SpatialSql.Row
/-!
# Catalog probes

The library owns no connection.  What it has to know of the database it asks a probe, which
answers every call as a function of the call.  A computation that asks keeps a record of its
calls.
-/

namespace SpatialSql.Catalog

structure TableListing where
  schema : Option String
  name : String
  tableType : String
  deriving DecidableEq

/-- A line of a column listing; `typeName` is the name of the database type. -/
structure ColumnListing where
  schema : Option String
  table : String
  name : String
  typeName : String
  sqlType : Int
  nullable : Bool
  deriving DecidableEq

def ColumnListing.of (schema table name typeName : String) : ColumnListing :=
  ⟨some schema, table, name, typeName, 0, true⟩

structure ColumnKey where
  schema : String
  table : String
  column : String
  deriving DecidableEq

inductive Call where
  | query (sql : String)
  | columns (schema table pattern : String)
  deriving DecidableEq

structure Probe where
  query : (sql : String) → Except Error (List Row)
  columns : (schema table pattern : String) → Except Error (List ColumnListing)

/-- A value and the calls that it took. -/
structure Asked (α : Type) where
  value : α
  calls : List Call

namespace Asked

protected def bind (asked : Asked α) (next : α → Asked β) : Asked β :=
  let further := next asked.value
  ⟨further.value, asked.calls ++ further.calls⟩

instance : Monad Asked where
  pure a := ⟨a, []⟩
  bind := Asked.bind

end Asked

namespace Probe

def askQuery (probe : Probe) (sql : String) : Asked (Except Error (List Row)) :=
  ⟨probe.query sql, [.query sql]⟩

def askColumns (probe : Probe) (schema table pattern : String) :
    Asked (Except Error (List ColumnListing)) :=
  ⟨probe.columns schema table pattern, [.columns schema table pattern]⟩

end Probe

end SpatialSql.Catalog
