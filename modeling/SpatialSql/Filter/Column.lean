import SpatialSql.Filter.Predicate
/-!
# Conditions on a geometry column

The predicates that start from a geometry column.
-/

namespace SpatialSql.Filter

structure Column where
  name : String
  deriving DecidableEq

namespace Column

def relates (column : Column) (op : Relation) (g : Geometry) : Predicate :=
  .relation op column.name g false

def bounded (column : Column) (op : DistanceBound) (g : Geometry) (limit : Binary64) : Predicate :=
  .distance op column.name g limit false

def intersectsPoint (column : Column) (x y : Binary64) : Predicate :=
  column.relates .intersects (.point (some (.planar x y)))

def relatesRectangle (column : Column) (op : Relation) (x₀ y₀ x₁ y₁ : Binary64) : Predicate :=
  column.relates op (.rectangle x₀ y₀ x₁ y₁)

def intersectsShell (column : Column) (shell : Path) : Except RingFault Predicate := do
  return column.relates .intersects (← Geometry.ofShell shell)

def isNull (column : Column) : Predicate := .absent column.name

end Column

end SpatialSql.Filter
