import SpatialSql.Error
import SpatialSql.Filter.Predicate
import SpatialSql.Sql
/-!
# Filters as SQL

A relation is tested on envelopes first, which the database can look up, and then exactly.  Two
relations do with one test: disjointness is not implied by any relation of the envelopes, and a
loose bounding box asks for nothing but theirs.
-/

namespace SpatialSql.Filter

structure Compiler where
  literals : Sql.LiteralSyntax
  /-- Bounding boxes are compared by their envelopes alone. -/
  loose : Bool
  deriving DecidableEq

/-- A condition that SQL cannot express. -/
inductive Unsupported where
  | relation (op : Relation)
  | distance (op : DistanceBound) (limit : Binary64)
  deriving DecidableEq

def Unsupported.message : Unsupported → String
  | .relation op => "Unsupported filter type " ++ op.name
  | .distance op limit => op.name ++ " with non finite distance " ++ limit.plain

def Unsupported.toFailure (u : Unsupported) : Failure := .unsupportedPredicate u.message

namespace Compiler

/-- A geometry literal; the database knows no linear rings. -/
def geometry (g : Geometry) : String :=
  "ST_Geometry(" ++ Sql.string (Wkt.write g.normalized.geometry) ++ ")"

def expression (c : Compiler) : Expression → String
  | .property name => Sql.identifier name
  | .literal value => c.literals.literal value
  | .geometry g => geometry g

def relationFunction (op : Relation) : Except Unsupported String :=
  match op.function? with
  | some function => .ok function
  | none => .error (.relation op)

def envelopeTest (property : String) (g : Geometry) : String :=
  Sql.identifier property ++ " && " ++ geometry g

def exactTest (function property : String) (g : Geometry) : String :=
  Sql.identifier property ++ "." ++ function ++ "(" ++ geometry g ++ ")"

/-- A relation between a column and a geometry.  Containment turns round when the geometry was
written first. -/
def relation (c : Compiler) (op : Relation) (property : String) (g : Geometry) (swapped : Bool) :
    Except Unsupported String := do
  let function ← relationFunction (if swapped then op.converse else op)
  let exact := exactTest function property g
  if op = .disjoint then return exact
  else if op = .boundingBox ∧ c.loose then return envelopeTest property g
  else return envelopeTest property g ++ " AND " ++ exact

/-- A bound on a distance.  A bound that was written with the geometry first reads as the other
one. -/
def distance (op : DistanceBound) (property : String) (g : Geometry) (limit : Binary64)
    (swapped : Bool) : Except Unsupported String :=
  if !limit.isFinite then .error (.distance op limit)
  else if (op == .within) != swapped then
    .ok (Sql.identifier property ++ ".ST_WithinDistance(" ++ geometry g ++ "," ++ limit.literal
      ++ ")")
  else
    .ok (Sql.identifier property ++ ".ST_Distance(" ++ geometry g ++ ") > " ++ limit.literal)

def joined (joiner : String) (conditions : List String) : String :=
  "(" ++ joiner.intercalate conditions ++ ")"

mutual

def compile (c : Compiler) : Predicate → Except Unsupported String
  | .everything => .ok "1 = 1"
  | .nothing => .ok "0 = 1"
  | .all [] => .ok "1 = 1"
  | .any [] => .ok "0 = 1"
  | .all children => (c.compileAll children).map (joined " AND ")
  | .any children => (c.compileAll children).map (joined " OR ")
  | .not child => (c.compile child).map fun sql => "NOT (" ++ sql ++ ")"
  | .compare op left right =>
    .ok (c.expression left ++ " " ++ op.sql ++ " " ++ c.expression right)
  | .isNull operand => .ok (c.expression operand ++ " IS NULL")
  | .relation op property g swapped => c.relation op property g swapped
  | .distance op property g limit swapped => distance op property g limit swapped
  | .related op left right =>
    (relationFunction op).map fun function =>
      c.expression left ++ "." ++ function ++ "(" ++ c.expression right ++ ")"
termination_by structural p => p

def compileAll (c : Compiler) : List Predicate → Except Unsupported (List String)
  | [] => .ok []
  | p :: rest => do
    let first ← c.compile p
    let others ← c.compileAll rest
    return first :: others
termination_by structural ps => ps

end

/-- Appends the condition to a statement, which stays as it is when there is none. -/
def compileOnto (c : Compiler) (p : Predicate) (sql : String) : Except Unsupported Unit × String :=
  match c.compile p with
  | .ok condition => (.ok (), sql ++ condition)
  | .error fault => (.error fault, sql)

def whereClause (c : Compiler) (p : Predicate) : Except Unsupported String := do
  return "WHERE " ++ (← c.compile p)

end Compiler

mutual

def supports : Predicate → Bool
  | .everything | .nothing | .isNull _ => true
  | .all children | .any children => supportsAll children
  | .not child => supports child
  | .compare op _ _ => supportedComparisons.contains op
  | .relation op _ _ _ | .related op _ _ => supportedRelations.contains op
  | .distance op _ _ limit _ => supportedBounds.contains op && limit.isFinite
termination_by structural p => p

def supportsAll : List Predicate → Bool
  | [] => true
  | p :: rest => supports p && supportsAll rest
termination_by structural ps => ps

end

end SpatialSql.Filter
