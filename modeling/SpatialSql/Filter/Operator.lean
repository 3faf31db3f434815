/-!
# Filter operators

Relations between two geometries, bounds on their distance and comparisons of scalars, each with
the spellings it has for a reader and in SQL.
-/

namespace SpatialSql.Filter

inductive Relation where
  | equals
  | disjoint
  | intersects
  | boundingBox
  | crosses
  | within
  | contains
  | overlaps
  | touches
  /-- A pattern of intersections, which SQL has no function for. -/
  | relate
  deriving DecidableEq

namespace Relation

def all : List Relation :=
  [.equals, .disjoint, .intersects, .boundingBox, .crosses, .within, .contains, .overlaps,
    .touches, .relate]

def name : Relation → String
  | .equals => "Equals"
  | .disjoint => "Disjoint"
  | .intersects => "Intersects"
  | .boundingBox => "BBox"
  | .crosses => "Crosses"
  | .within => "Within"
  | .contains => "Contains"
  | .overlaps => "Overlaps"
  | .touches => "Touches"
  | .relate => "Relate"

/-- The relation between the same two geometries in the other order. -/
def converse : Relation → Relation
  | .within => .contains
  | .contains => .within
  | r => r

/-- The member function that decides the relation; envelopes are compared by intersection. -/
def function? : Relation → Option String
  | .equals => some "ST_Equals"
  | .disjoint => some "ST_Disjoint"
  | .intersects | .boundingBox => some "ST_Intersects"
  | .crosses => some "ST_Crosses"
  | .within => some "ST_Within"
  | .contains => some "ST_Contains"
  | .overlaps => some "ST_Overlaps"
  | .touches => some "ST_Touches"
  | .relate => none

end Relation

inductive DistanceBound where
  | within
  | beyond
  deriving DecidableEq

def DistanceBound.all : List DistanceBound := [.within, .beyond]

def DistanceBound.name : DistanceBound → String
  | .within => "DWithin"
  | .beyond => "Beyond"

inductive Comparison where
  | equal
  | notEqual
  | less
  | lessEqual
  | greater
  | greaterEqual
  | like
  deriving DecidableEq

def Comparison.all : List Comparison :=
  [.equal, .notEqual, .less, .lessEqual, .greater, .greaterEqual, .like]

def Comparison.name : Comparison → String
  | .equal => "Eq"
  | .notEqual => "NotEq"
  | .less => "Lt"
  | .lessEqual => "LtEq"
  | .greater => "Gt"
  | .greaterEqual => "GtEq"
  | .like => "Like"

def Comparison.sql : Comparison → String
  | .equal => "="
  | .notEqual => "<>"
  | .less => "<"
  | .lessEqual => "<="
  | .greater => ">"
  | .greaterEqual => ">="
  | .like => "LIKE"

/-! ## What can be translated -/

def supportedRelations : List Relation :=
  [.boundingBox, .contains, .crosses, .disjoint, .equals, .intersects, .overlaps, .touches,
    .within]

def supportedBounds : List DistanceBound := [.within, .beyond]

def supportedComparisons : List Comparison := Comparison.all

end SpatialSql.Filter
