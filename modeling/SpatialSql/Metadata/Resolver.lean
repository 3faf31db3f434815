import SpatialSql.Metadata.Cache
import SpatialSql.Metadata.Statement
import SpatialSql.Settings.Basic
/-!
# Resolving metadata

The kind, the reference system and the extent of geometry columns, asked of the catalog and kept
in a cache.  A catalog that fails never makes a lookup fail: every question has an answer that
stands in.  A change of the schema in use drops the cache.
-/

namespace SpatialSql.Metadata

open Catalog (Asked ColumnKey ColumnListing Probe)

def subtype (probe : Probe) (key : ColumnKey) : Asked (Option Geometry.Kind) := do
  return kindOfAnswer (← probe.askQuery (kindStatement key))

def srid (probe : Probe) (key : ColumnKey) : Asked Int32 := do
  return sridOfAnswer (← probe.askQuery (sridStatement key))

/-- The kind of a column declared with some kind; only of a generic one the catalog knows more. -/
def refine (probe : Probe) (key : ColumnKey) : Geometry.Kind → Asked Geometry.Kind
  | .generic => do return (← subtype probe key).getD .generic
  | kind => pure kind

def probeColumn (probe : Probe) (key : ColumnKey) (nativeName : String)
    (declared : Geometry.Kind) : Asked GeometryColumn := do
  let kind ← refine probe key declared
  let srid ← srid probe key
  return ⟨key.column, kind, srid, nativeName⟩

/-- The extent around those of some columns and one already found.  The first failure ends the
search without a result, and so does an extent that nothing contributed to. -/
def estimateFrom (probe : Probe) (schema table : String) :
    (extent : Envelope) → (columns : List String) → Asked (Option Envelope)
  | extent, [] => pure (if extent.isNull then none else some extent)
  | extent, column :: rest => do
    match estimateOfAnswer (← probe.askQuery (extentStatement ⟨schema, table, column⟩)) with
    | .failed => return none
    | .missing => estimateFrom probe schema table extent rest
    | .found further => estimateFrom probe schema table (extent.union further) rest

def estimate (probe : Probe) (settings : Settings) (schema : Option String) (table : String)
    (columns : List String) : Asked (Option Envelope) :=
  if settings.estimatedExtents then
    estimateFrom probe (settings.schemaOr schema) table .null columns
  else pure none

/-- Describes the geometry columns among some listed ones: all of them, and those that the cache
did not have. -/
def describeListed (probe : Probe) (cache : Cache) (schema table : String) :
    List ColumnListing → Asked (List GeometryColumn × List (ColumnKey × GeometryColumn))
  | [] => pure ([], [])
  | listed :: rest => do
    match Geometry.Kind.ofNative? listed.typeName with
    | none => describeListed probe cache schema table rest
    | some declared =>
      let key : ColumnKey := ⟨schema, table, listed.name⟩
      match cache.find? key with
      | some column =>
        let (columns, found) ← describeListed probe cache schema table rest
        return (column :: columns, found)
      | none =>
        let column ← probeColumn probe key listed.typeName declared
        let (columns, found) ← describeListed probe cache schema table rest
        return (column :: columns, (key, column) :: found)

structure Resolver where
  cache : Cache
  context : Option String
  deriving DecidableEq

namespace Resolver

def empty : Resolver := ⟨.empty, none⟩

def store (r : Resolver) (found : List (ColumnKey × GeometryColumn)) : Resolver :=
  { r with cache := r.cache.store found }

def subtype (r : Resolver) (probe : Probe) (settings : Settings) (schema : Option String)
    (table column : String) : Asked (Option Geometry.Kind × Resolver) := do
  return (← Metadata.subtype probe ⟨settings.schemaOr schema, table, column⟩, r)

def srid (r : Resolver) (probe : Probe) (settings : Settings) (schema : Option String)
    (table column : String) : Asked (Int32 × Resolver) := do
  return (← Metadata.srid probe ⟨settings.schemaOr schema, table, column⟩, r)

def cached (r : Resolver) (settings : Settings) (schema : Option String) (table column : String) :
    Option GeometryColumn :=
  r.cache.find? ⟨settings.schemaOr schema, table, column⟩

/-- Describes a column of some database type, from the cache if it is there. -/
def describe (r : Resolver) (probe : Probe) (settings : Settings) (schema : Option String)
    (table column nativeName : String) : Asked (Option GeometryColumn × Resolver) :=
  match Geometry.Kind.ofNative? nativeName with
  | none => pure (none, r)
  | some declared =>
    let key : ColumnKey := ⟨settings.schemaOr schema, table, column⟩
    match r.cache.find? key with
    | some known => pure (some known, r)
    | none => do
      let described ← probeColumn probe key nativeName declared
      return (some described, r.store [(key, described)])

/-- Describes the geometry columns of a table.  All that were asked for are stored in one update;
a table that cannot be listed has none. -/
def geometryColumns (r : Resolver) (probe : Probe) (settings : Settings) (schema : Option String)
    (table : String) : Asked (List GeometryColumn × Resolver) := do
  let schema := settings.schemaOr schema
  match ← probe.askColumns schema table "%" with
  | .error _ => return ([], r)
  | .ok listed =>
    let (columns, found) ← describeListed probe r.cache schema table listed
    return (columns, r.store found)

/-- Whether a schema is another one than that in use, without regard to case. -/
def changes (r : Resolver) (schema : String) : Bool :=
  match r.context with
  | some current => !Text.eqFolded current schema
  | none => true

/-- Takes a schema into use, and tells whether that has reset the cache: another schema than before
does. -/
def setContext (r : Resolver) (schema : String) : Bool × Resolver :=
  if r.changes schema then (true, ⟨r.cache.reset, some schema⟩) else (false, r)

end Resolver

end SpatialSql.Metadata
