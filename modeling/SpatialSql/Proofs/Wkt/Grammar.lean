import SpatialSql.Wkt.Reading
/-!
# The grammar of well-known text

The ways in which tokens spell a geometry, as the trees of their derivations.  A tree holds what is
written, measures and a third ordinate that is NaN included, and so has both the tokens that it
derives and the geometry that they spell.
-/

namespace SpatialSql.Wkt

/-- How many numbers may stand behind the first two. -/
def Dimensions.further : Dimensions → List Nat
  | ⟨false, false⟩ => [0, 1, 2]
  | ⟨true, false⟩ => [1]
  | ⟨false, true⟩ => [0, 1]
  | ⟨true, true⟩ => [2]

def Dimensions.tokens : Dimensions → List Token
  | ⟨false, false⟩ => []
  | ⟨true, false⟩ => [.word "Z"]
  | ⟨false, true⟩ => [.word "M"]
  | ⟨true, true⟩ => [.word "ZM"]

/-- `EMPTY`, or items in parentheses with a comma between one and the next. -/
def listTokens (item : α → List Token) : List α → List Token
  | [] => [.word "EMPTY"]
  | first :: others =>
    .leftParen :: (item first ++ (others.flatMap (.comma :: item ·) ++ [.rightParen]))

/-! ## Coordinates -/

/-- The numbers of a coordinate.  Behind them stands a comma or a parenthesis, so they are all the
numbers in a row. -/
@[ext] structure Numbers (d : Dimensions) where
  x : Binary64
  y : Binary64
  further : List Binary64
  length_further : further.length ∈ d.further

namespace Numbers

variable {d : Dimensions}

def toList (n : Numbers d) : List Binary64 := n.x :: n.y :: n.further

def tokens (n : Numbers d) : List Token := n.toList.map .number

/-- A third number is the third ordinate unless a measure is all that was announced. -/
def coordinate (n : Numbers d) : Coordinate where
  x := n.x
  y := n.y
  z := if d.m && !d.z then none else n.further.head?.filter fun z => !z.isNaN

end Numbers

variable {d : Dimensions}

def pathOf (numbers : List (Numbers d)) : Path := numbers.map Numbers.coordinate

@[ext] structure RingBody (d : Dimensions) where
  numbers : List (Numbers d)
  closed : numbers = [] ∨ 4 ≤ numbers.length ∧ (pathOf numbers).isClosed = true

def RingBody.path (ring : RingBody d) : Path := pathOf ring.numbers

def pathTokens (path : List (Numbers d)) : List Token := listTokens Numbers.tokens path

def RingBody.tokens (ring : RingBody d) : List Token := pathTokens ring.numbers

def pointTokens : Option (Numbers d) → List Token
  | none => [.word "EMPTY"]
  | some n => .leftParen :: (n.tokens ++ [.rightParen])

def pointOf (body : Option (Numbers d)) : Point := body.map Numbers.coordinate

inductive PointItem (d : Dimensions) where
  | bare (n : Numbers d)
  | body (p : Option (Numbers d))

def PointItem.tokens : PointItem d → List Token
  | bare n => n.tokens
  | body p => pointTokens p

def PointItem.point : PointItem d → Point
  | bare n => some n.coordinate
  | body p => pointOf p

/-! ## Geometries -/

/-- What stands behind a tag and its dimensions, for some derivations of members. -/
inductive Body (Member : Type) (d : Dimensions) where
  | point (p : Option (Numbers d))
  | lineString (path : List (Numbers d))
  | linearRing (ring : RingBody d)
  | polygon (rings : List (RingBody d))
  | multiPoint (points : List (PointItem d))
  | multiLineString (paths : List (List (Numbers d)))
  | multiPolygon (polygons : List (List (RingBody d)))
  | collection (members : List Member)

namespace Body

variable {Member : Type}

def tag : Body Member d → String
  | .point _ => "POINT"
  | .lineString _ => "LINESTRING"
  | .linearRing _ => "LINEARRING"
  | .polygon _ => "POLYGON"
  | .multiPoint _ => "MULTIPOINT"
  | .multiLineString _ => "MULTILINESTRING"
  | .multiPolygon _ => "MULTIPOLYGON"
  | .collection _ => "GEOMETRYCOLLECTION"

def tokens (member : Member → List Token) : Body Member d → List Token
  | .point p => pointTokens p
  | .lineString path => pathTokens path
  | .linearRing ring => ring.tokens
  | .polygon rings => listTokens RingBody.tokens rings
  | .multiPoint points => listTokens PointItem.tokens points
  | .multiLineString paths => listTokens pathTokens paths
  | .multiPolygon polygons => listTokens (listTokens RingBody.tokens) polygons
  | .collection members => listTokens member members

def geometry (member : Member → Geometry) : Body Member d → Geometry
  | .point p => .point (pointOf p)
  | .lineString path => .lineString (pathOf path)
  | .linearRing ring => .linearRing ring.path
  | .polygon rings => .polygon (rings.map RingBody.path)
  | .multiPoint points => .multiPoint (points.map PointItem.point)
  | .multiLineString paths => .multiLineString (paths.map pathOf)
  | .multiPolygon polygons => .multiPolygon (polygons.map (List.map RingBody.path))
  | .collection members => .collection (members.map member)

end Body

structure Phrase (Member : Type) where
  dimensions : Dimensions
  body : Body Member dimensions

namespace Phrase

variable {Member : Type}

def tokens (member : Member → List Token) (p : Phrase Member) : List Token :=
  .word p.body.tag :: (p.dimensions.tokens ++ p.body.tokens member)

def geometry (member : Member → Geometry) (p : Phrase Member) : Geometry := p.body.geometry member

end Phrase

/-- The derivations of geometries with at most so many levels, the outermost one included. -/
def Derivation : (levels : Nat) → Type
  | 0 => Empty
  | levels + 1 => Phrase (Derivation levels)

namespace Derivation

def tokens : {levels : Nat} → Derivation levels → List Token
  | 0, t => nomatch t
  | _ + 1, t => Phrase.tokens tokens t

def geometry : {levels : Nat} → Derivation levels → Geometry
  | 0, t => nomatch t
  | _ + 1, t => Phrase.geometry geometry t

theorem tokens_append {levels : Nat} (d : Dimensions) (b : Body (Derivation levels) d)
    (rest : List Token) : @tokens (levels + 1) ⟨d, b⟩ ++ rest =
      .word b.tag :: (d.tokens ++ (b.tokens tokens ++ rest)) := by
  simp [tokens, Phrase.tokens]

end Derivation

end SpatialSql.Wkt
