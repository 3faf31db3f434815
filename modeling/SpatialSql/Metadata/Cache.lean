import SpatialSql.Catalog.Probe
import SpatialSql.Metadata.Column
/-!
# The metadata cache

Descriptions of geometry columns by the column they belong to.  Every update that stores
something, and every reset, installs a new map with a number of its own; a map once handed out
never changes.
-/

namespace SpatialSql.Metadata

open Catalog (ColumnKey)

structure Cache where
  entries : List (ColumnKey × GeometryColumn)
  /-- Counts the maps that were installed before. -/
  generation : Nat
  deriving DecidableEq

namespace Cache

def empty : Cache := ⟨[], 0⟩

def find? (cache : Cache) (key : ColumnKey) : Option GeometryColumn := cache.entries.lookup key

def size (cache : Cache) : Nat := cache.entries.length

/-- Entries with one set, in the place of an earlier one for the same column. -/
def setEntry (key : ColumnKey) (column : GeometryColumn) :
    List (ColumnKey × GeometryColumn) → List (ColumnKey × GeometryColumn)
  | [] => [(key, column)]
  | entry :: rest =>
    if entry.1 = key then (key, column) :: rest else entry :: setEntry key column rest

/-- Stores descriptions in one update; to store none is no update. -/
def store (cache : Cache) (found : List (ColumnKey × GeometryColumn)) : Cache :=
  if found.isEmpty then cache
  else
    ⟨found.foldl (fun entries (key, column) => setEntry key column entries) cache.entries,
      cache.generation + 1⟩

def reset (cache : Cache) : Cache := ⟨[], cache.generation + 1⟩

def keyLe (a b : ColumnKey) : Bool :=
  if a.schema ≠ b.schema then a.schema < b.schema
  else if a.table ≠ b.table then a.table < b.table
  else a.column ≤ b.column

/-- The entries in the order of schema, table and column. -/
def listing (cache : Cache) : List (ColumnKey × GeometryColumn) :=
  cache.entries.mergeSort fun a b => keyLe a.1 b.1

end Cache

end SpatialSql.Metadata
