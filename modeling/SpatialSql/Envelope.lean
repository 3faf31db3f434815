import SpatialSql.Geometry.Coordinate
/-!
# Envelopes

Axis-aligned bounding boxes.  The null envelope, to which nothing has contributed, has its lower
bounds above its upper ones, so that growing it needs no special case; a vertical range is there
once a third ordinate has contributed.
-/

namespace SpatialSql

structure Envelope where
  minX : Binary64
  minY : Binary64
  maxX : Binary64
  maxY : Binary64
  minZ : Option Binary64
  maxZ : Option Binary64
  deriving DecidableEq

namespace Envelope

open Binary64 (infinity negInfinity)

def null : Envelope := ⟨infinity, infinity, negInfinity, negInfinity, none, none⟩

/-- The envelope between two corners, given in any order. -/
def ofCorners (x₀ y₀ x₁ y₁ : Binary64) : Envelope :=
  ⟨x₀.min x₁, y₀.min y₁, x₀.max x₁, y₀.max y₁, none, none⟩

def ofCorners3d (x₀ y₀ z₀ x₁ y₁ z₁ : Binary64) : Envelope :=
  { ofCorners x₀ y₀ x₁ y₁ with minZ := some (z₀.min z₁), maxZ := some (z₀.max z₁) }

def isNull (e : Envelope) : Bool := e.maxX.lt e.minX

def hasZ (e : Envelope) : Bool := e.minZ.isSome

/-- A bound met with a further ordinate. -/
def widen (choose : Binary64 → Binary64 → Binary64) (bound : Option Binary64) (z : Binary64) :
    Option Binary64 :=
  match bound with
  | some b => some (choose b z)
  | none => some z

def widenZ (e : Envelope) (low high : Binary64) : Envelope :=
  { e with minZ := widen Binary64.min e.minZ low, maxZ := widen Binary64.max e.maxZ high }

/-- The least envelope around this one and a coordinate.  A coordinate that has NaN for its first
or second ordinate does not contribute. -/
def insert (e : Envelope) (c : Coordinate) : Envelope :=
  if c.x.isNaN || c.y.isNaN then e
  else
    let wider : Envelope :=
      { e with
        minX := e.minX.min c.x, minY := e.minY.min c.y
        maxX := e.maxX.max c.x, maxY := e.maxY.max c.y }
    match c.z.filter fun z => !z.isNaN with
    | some z => wider.widenZ z z
    | none => wider

def union (e other : Envelope) : Envelope :=
  if other.isNull then e
  else
    let wider : Envelope :=
      { e with
        minX := e.minX.min other.minX, minY := e.minY.min other.minY
        maxX := e.maxX.max other.maxX, maxY := e.maxY.max other.maxY }
    match other.minZ, other.maxZ with
    | some low, some high => wider.widenZ low high
    | _, _ => wider

def ofCoordinates (coordinates : List Coordinate) : Envelope := coordinates.foldl insert null

def width (e : Envelope) : Binary64 := if e.isNull then .zero else e.maxX.sub e.minX

def height (e : Envelope) : Binary64 := if e.isNull then .zero else e.maxY.sub e.minY

def area (e : Envelope) : Binary64 := e.width.mul e.height

def center? (e : Envelope) : Option Coordinate :=
  if e.isNull then none
  else some (.planar (e.minX.add e.maxX).half (e.minY.add e.maxY).half)

def containsPoint (e : Envelope) (x y : Binary64) : Bool :=
  !e.isNull && e.minX.le x && x.le e.maxX && e.minY.le y && y.le e.maxY

def contains (e other : Envelope) : Bool :=
  !e.isNull && !other.isNull
    && e.minX.le other.minX && other.maxX.le e.maxX
    && e.minY.le other.minY && other.maxY.le e.maxY

def intersects (e other : Envelope) : Bool :=
  !e.isNull && !other.isNull
    && e.minX.le other.maxX && other.minX.le e.maxX
    && e.minY.le other.maxY && other.minY.le e.maxY

def isPoint (e : Envelope) : Bool := !e.isNull && e.minX.numEq e.maxX && e.minY.numEq e.maxY

def boundEq : Option Binary64 → Option Binary64 → Bool
  | none, none => true
  | some a, some b => a.numEq b
  | _, _ => false

def numEq (e other : Envelope) : Bool :=
  e.minX.numEq other.minX && e.minY.numEq other.minY
    && e.maxX.numEq other.maxX && e.maxY.numEq other.maxY
    && boundEq e.minZ other.minZ && boundEq e.maxZ other.maxZ

def toText (e : Envelope) : String :=
  if e.isNull then "Env[null]"
  else
    "Env[" ++ e.minX.plain ++ " : " ++ e.maxX.plain ++ ", " ++ e.minY.plain ++ " : "
      ++ e.maxY.plain ++ "]"
      ++ match e.minZ, e.maxZ with
        | some low, some high => "[" ++ low.plain ++ " : " ++ high.plain ++ "]"
        | _, _ => ""

end Envelope

end SpatialSql
