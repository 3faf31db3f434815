import SpatialSql.Binary64.Arithmetic
import SpatialSql.Binary64.Text
/-!
# Coordinates and paths

A coordinate has two ordinates and perhaps a third.  A path is a sequence of coordinates; it is a
ring when it is empty or comes back, in the plane, to where it started after at least three other
coordinates.
-/

namespace SpatialSql

structure Coordinate where
  x : Binary64
  y : Binary64
  z : Option Binary64
  deriving DecidableEq

namespace Coordinate

def planar (x y : Binary64) : Coordinate := ⟨x, y, none⟩

def hasZ (c : Coordinate) : Bool := c.z.isSome

def distance (a b : Coordinate) : Binary64 :=
  let dx := a.x.sub b.x
  let dy := a.y.sub b.y
  ((dx.mul dx).add (dy.mul dy)).sqrt

def numEq2d (a b : Coordinate) : Bool := a.x.numEq b.x && a.y.numEq b.y

def numEq (a b : Coordinate) : Bool :=
  a.numEq2d b &&
    match a.z, b.z with
    | none, none => true
    | some z, some w => z.numEq w
    | _, _ => false

def toText (c : Coordinate) : String :=
  match c.z with
  | some z => "(" ++ c.x.plain ++ ", " ++ c.y.plain ++ ", " ++ z.plain ++ ")"
  | none => "(" ++ c.x.plain ++ ", " ++ c.y.plain ++ ")"

end Coordinate

abbrev Path := List Coordinate

inductive RingFault where
  | tooShort (length : Nat)
  | notClosed
  deriving DecidableEq

def RingFault.message : RingFault → String
  | .tooShort length => "A linear ring needs at least 4 coordinates, got " ++ toString length
  | .notClosed => "A linear ring must be closed"

namespace Path

/-- Whether the path ends, in the plane, where it starts; an empty path does not. -/
def isClosed (path : Path) : Bool :=
  match path.head?, path.getLast? with
  | some first, some last => first.numEq2d last
  | _, _ => false

def ringFault? (path : Path) : Option RingFault :=
  if path.isEmpty then none
  else if path.length < 4 then some (.tooShort path.length)
  else if path.isClosed then none
  else some .notClosed

def isRing (path : Path) : Bool := path.ringFault?.isNone

def ring (path : Path) : Except RingFault Path :=
  match path.ringFault? with
  | some fault => .error fault
  | none => .ok path

end Path

end SpatialSql
