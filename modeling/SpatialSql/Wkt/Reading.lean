import SpatialSql.Geometry.Basic
import SpatialSql.Wkt.Token
/-!
# Reading well-known text

A geometry is a tag, perhaps a word for its dimensions, and a body.  Measures are read and
dropped, a third ordinate that is NaN counts as absent, and the members of a multipoint may stand
without parentheses of their own.
-/

namespace SpatialSql.Wkt

/-- Takes what it reads from the front of the tokens. -/
abbrev Parser (α : Type) := List Token → Except Fault (α × List Token)

/-- Which ordinates the tag announces behind the first two. -/
structure Dimensions where
  z : Bool
  m : Bool
  deriving DecidableEq

def Dimensions.count (d : Dimensions) : Nat := 2 + d.z.toNat + d.m.toNat

def next : Parser Token
  | [] => .error .endOfText
  | token :: rest => .ok (token, rest)

def expect (wanted : Token) (tokens : List Token) : Except Fault (List Token) := do
  let (found, rest) ← next tokens
  if found = wanted then return rest else throw (.expected wanted found)

def tag (tokens : List Token) : Except Fault (String × List Token) := do
  match ← next tokens with
  | (.word text, rest) => return (text, rest)
  | (found, _) => throw (.expectedTag found)

def dimensions : List Token → Dimensions × List Token
  | .word "Z" :: rest => (⟨true, false⟩, rest)
  | .word "M" :: rest => (⟨false, true⟩, rest)
  | .word "ZM" :: rest => (⟨true, true⟩, rest)
  | tokens => (⟨false, false⟩, tokens)

/-! ## Lists -/

/-- The items behind the first one, each with a comma in front, and the closing parenthesis.
Every item takes its comma, so as many rounds as there are tokens are enough. -/
def more (item : Parser α) : (rounds : Nat) → Parser (List α)
  | 0, _ => .error .endOfText
  | rounds + 1, tokens => do
    match ← next tokens with
    | (.comma, rest) =>
      let (first, rest) ← item rest
      let (others, rest) ← more item rounds rest
      return (first :: others, rest)
    | (.rightParen, rest) => return ([], rest)
    | (found, _) => throw (.expectedSeparator found)

def enclosed (item : Parser α) : Parser (List α) := fun tokens => do
  let rest ← expect .leftParen tokens
  let (first, rest) ← item rest
  let (others, rest) ← more item rest.length rest
  return (first :: others, rest)

def list (item : Parser α) : Parser (List α)
  | .word "EMPTY" :: rest => .ok ([], rest)
  | tokens => enclosed item tokens

/-! ## Bodies -/

def numbers : List Token → List Binary64 × List Token
  | .number x :: rest =>
    let (xs, rest) := numbers rest
    (x :: xs, rest)
  | tokens => ([], tokens)

/-- The coordinate that some ordinates make up.  Without an announcement a third and a fourth may
follow; a measure that was announced may be missing when it stands alone. -/
def ofOrdinates (d : Dimensions) (ordinates : List Binary64) : Except Fault Coordinate :=
  let withZ (x y z : Binary64) : Coordinate := ⟨x, y, if z.isNaN then none else some z⟩
  match ordinates, d.z, d.m with
  | [x, y], false, _ => .ok ⟨x, y, none⟩
  | [x, y, z], _, false => .ok (withZ x y z)
  | [x, y, _], false, true => .ok ⟨x, y, none⟩
  | [x, y, z, _], true, true => .ok (withZ x y z)
  | [x, y, z, _], false, false => .ok (withZ x y z)
  | _, _, _ => .error (.ordinateCount ordinates.length d.count)

def coordinate (d : Dimensions) : Parser Coordinate := fun tokens => do
  let (ordinates, rest) := numbers tokens
  return (← ofOrdinates d ordinates, rest)

def path (d : Dimensions) : Parser Path := list (coordinate d)

def ring (d : Dimensions) : Parser Path := fun tokens => do
  let (path, rest) ← path d tokens
  match path.ring with
  | .ok ring => return (ring, rest)
  | .error fault => throw (.notARing fault)

def polygon (d : Dimensions) : Parser Polygon := list (ring d)

def point (d : Dimensions) : Parser Point
  | .word "EMPTY" :: rest => .ok (none, rest)
  | tokens => do
    let rest ← expect .leftParen tokens
    let (c, rest) ← coordinate d rest
    let rest ← expect .rightParen rest
    return (some c, rest)

/-- A member of a multipoint, with or without parentheses. -/
def pointMember (d : Dimensions) : Parser Point
  | .number x :: rest => do
    let (c, rest) ← coordinate d (.number x :: rest)
    return (some c, rest)
  | tokens => point d tokens

def build (f : α → Geometry) (parser : Parser α) : Parser Geometry := fun tokens => do
  let (a, rest) ← parser tokens
  return (f a, rest)

/-- The body behind a tag and its dimensions; `member` reads the members of a collection. -/
def body (tag : String) (d : Dimensions) (member : Parser Geometry) : Parser Geometry :=
  match tag with
  | "POINT" => build .point (point d)
  | "LINESTRING" => build .lineString (path d)
  | "LINEARRING" => build .linearRing (ring d)
  | "POLYGON" => build .polygon (polygon d)
  | "MULTIPOINT" => build .multiPoint (list (pointMember d))
  | "MULTILINESTRING" => build .multiLineString (list (path d))
  | "MULTIPOLYGON" => build .multiPolygon (list (polygon d))
  | "GEOMETRYCOLLECTION" => build .collection (list member)
  | _ => fun _ => .error (.unknownTag tag)

/-- A geometry with at most `levels` levels, itself included. -/
def geometry : (levels : Nat) → Parser Geometry
  | 0, _ => .error .tooDeep
  | levels + 1, tokens => do
    let (tag, rest) ← tag tokens
    let (d, rest) := dimensions rest
    body tag d (geometry levels) rest

def ofTokens (tokens : List Token) : Except Fault Geometry := do
  match ← geometry (maxDepth + 1) tokens with
  | (g, []) => return g
  | (_, token :: _) => throw (.trailing token)

def read (text : String) : Except Fault Geometry := do ofTokens (← tokens text)

end SpatialSql.Wkt
