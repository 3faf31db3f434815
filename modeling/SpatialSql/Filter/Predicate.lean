import SpatialSql.Filter.Operator
import SpatialSql.Geometry.Equality
import SpatialSql.Scalar.Basic
import SpatialSql.Wkt.Writing
/-!
# Filters

A predicate is a tree of conditions on the columns of a feature.  A condition between a column
and a geometry keeps the column first and remembers whether it was written second.
-/

namespace SpatialSql.Filter

inductive Expression where
  | property (name : String)
  | literal (value : Scalar)
  | geometry (g : Geometry)
  deriving DecidableEq

def Expression.toText : Expression → String
  | .property name => name
  | .literal value => value.toText
  | .geometry g => Wkt.write g

inductive Predicate where
  | everything
  | nothing
  | all (children : List Predicate)
  | any (children : List Predicate)
  | not (child : Predicate)
  | compare (op : Comparison) (left right : Expression)
  | isNull (operand : Expression)
  /-- A relation between a column and a geometry, which was written first if `swapped`. -/
  | relation (op : Relation) (property : String) (geometry : Geometry) (swapped : Bool)
  /-- A bound on the distance of a column from a geometry, written first if `swapped`. -/
  | distance (op : DistanceBound) (property : String) (geometry : Geometry) (limit : Binary64)
      (swapped : Bool)
  /-- A relation between operands of any other kind. -/
  | related (op : Relation) (left right : Expression)

/-- A distance that has no column or no geometry to start from. -/
structure DistanceFault where
  op : DistanceBound
  left : Expression
  right : Expression

def DistanceFault.message (f : DistanceFault) : String :=
  f.op.name ++ " needs a property and a geometry literal, got " ++ f.left.toText ++ " and "
    ++ f.right.toText

namespace Predicate

/-! ## Construction -/

/-- A relation between operands in the order in which they were written. -/
def ofRelation (op : Relation) : Expression → Expression → Predicate
  | .property name, .geometry g => .relation op name g false
  | .geometry g, .property name => .relation op name g true
  | left, right => .related op left right

/-- A bound on the distance of operands in the order in which they were written. -/
def ofDistance (op : DistanceBound) (left right : Expression) (limit : Binary64) :
    Except DistanceFault Predicate :=
  match left, right with
  | .property name, .geometry g => .ok (.distance op name g limit false)
  | .geometry g, .property name => .ok (.distance op name g limit true)
  | _, _ => .error ⟨op, left, right⟩

def equals (property : String) (value : Scalar) : Predicate :=
  .compare .equal (.property property) (.literal value)

def absent (property : String) : Predicate := .isNull (.property property)

/-- Adds a condition to a conjunction, or makes one. -/
def and : Predicate → Predicate → Predicate
  | .all children, p => .all (children ++ [p])
  | first, p => .all [first, p]

def or : Predicate → Predicate → Predicate
  | .any children, p => .any (children ++ [p])
  | first, p => .any [first, p]

/-! ## Text -/

def written (property : String) (op : String) (g : Geometry) (swapped : Bool) : String :=
  if swapped then Wkt.write g ++ " " ++ op ++ " " ++ property
  else property ++ " " ++ op ++ " " ++ Wkt.write g

mutual

def toText : Predicate → String
  | .everything => "INCLUDE"
  | .nothing => "EXCLUDE"
  | .all children => "(" ++ " and ".intercalate (allToText children) ++ ")"
  | .any children => "(" ++ " or ".intercalate (allToText children) ++ ")"
  | .not child => "not " ++ child.toText
  | .compare op left right =>
    "(" ++ left.toText ++ " " ++ op.sql ++ " " ++ right.toText ++ ")"
  | .isNull operand => "(" ++ operand.toText ++ " is null)"
  | .relation op property g swapped => "(" ++ written property op.name g swapped ++ ")"
  | .distance op property g limit swapped =>
    "(" ++ written property op.name g swapped ++ ", " ++ limit.plain ++ ")"
  | .related op left right =>
    "(" ++ left.toText ++ " " ++ op.name ++ " " ++ right.toText ++ ")"
termination_by structural p => p

def allToText : List Predicate → List String
  | [] => []
  | p :: rest => p.toText :: allToText rest
termination_by structural ps => ps

end

end Predicate

end SpatialSql.Filter
