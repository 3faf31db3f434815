import SpatialSql.Metadata.Column
import SpatialSql.Tree.Geometry
/-!
# Geometry columns as trees
-/

namespace SpatialSql.Metadata.GeometryColumn

def toTree (c : GeometryColumn) : Tree :=
  .object [("name", .text c.name), ("geometry_type", c.kind.toTree),
    ("srid", .integer c.srid.toInt), ("native_type_name", .text c.nativeName)]

def ofTree? (t : Tree) : Option GeometryColumn := do
  match ← t.record? ["name", "geometry_type", "srid", "native_type_name"] 4 with
  | [name, kind, srid, nativeName] =>
    return ⟨← Tree.required Tree.text? name, ← Tree.required Geometry.Kind.ofTree? kind,
      Int32.ofInt (← Tree.required (Tree.integer? (-0x80000000) 0x7FFFFFFF) srid),
      ← Tree.required Tree.text? nativeName⟩
  | _ => none

end SpatialSql.Metadata.GeometryColumn
