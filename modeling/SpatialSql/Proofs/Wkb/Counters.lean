import SpatialSql.Proofs.Outcome
import SpatialSql.Wkb.Reading
/-!
# Readers by a counter

The readers of the binary format with the reading of counts left open.  By `count` they are the
readers themselves.  By `declared` they believe every count, whatever is left of the input, and so
tell what the check of a count is good for.
-/

namespace SpatialSql.Wkb

/-- Reads the number of items of some least size. -/
abbrev Counter := ByteOrder → (size : Nat) → Item → Reader Nat

/-- A count as it is declared, not held against the bytes that are left. -/
def declared : Counter := fun order _ item => word order 4 item

/-! ## Verdicts on what has been read -/

/-- The header that a type code is the beginning of. -/
def ofTypeCode (order : ByteOrder) (code : Nat) : Reader Header := fun rest =>
  match TypeCode.ofNat? code with
  | none => .error (.unknownTypeCode code)
  | some type => do
    let (srid, rest) ← srid order type.hasSrid rest
    return (⟨order, type.kind, type.z, type.m, srid⟩, rest)

def asRing (index : Nat) (path : Path) : Reader Path := fun rest =>
  match path.ring with
  | .ok ring => .ok (ring, rest)
  | .error fault => .error (.notARing index fault)

def asMember (h : Header) (accept : Geometry → Option α) (g : Geometry) : Reader α := fun rest =>
  match accept g with
  | some a => .ok (a, rest)
  | none => .error (.wrongMember h.kind g.kind)

/-! ## The readers -/

def countedBy (counter : Counter) (order : ByteOrder) (size : Nat) (what : Item)
    (item : Nat → Reader α) : Reader (List α) := fun bytes => do
  let (number, rest) ← counter order size what bytes
  repeated item 0 number rest

section

variable (counter : Counter) (h : Header)

def pathBy : Reader Path :=
  countedBy counter h.order (coordinateSize h) .coordinate fun _ => coordinate h

def ringBy (index : Nat) : Reader Path := fun bytes => do
  let (path, rest) ← pathBy counter h bytes
  asRing index path rest

def polygonBy : Reader Polygon := countedBy counter h.order 4 .ring (ringBy counter h)

def membersBy (member : Reader Geometry) (accept : Geometry → Option α) : Reader (List α) :=
  countedBy counter h.order leastMemberSize .member fun _ => accepted h member accept

def bodyBy (member : Reader Geometry) : Reader Geometry :=
  match h.kind with
  | .point => build .point (point h)
  | .lineString => build .lineString (pathBy counter h)
  | .polygon => build .polygon (polygonBy counter h)
  | .multiPoint => build .multiPoint (membersBy counter h member point?)
  | .multiLineString => build .multiLineString (membersBy counter h member path?)
  | .multiPolygon => build .multiPolygon (membersBy counter h member polygon?)
  | .collection => build .collection (membersBy counter h member some)
  | .generic => fun _ => .error (.unknownTypeCode 0)

end

def geometryBy (counter : Counter) : (levels : Nat) → Reader (Geometry × Option Int32)
  | 0, _ => .error .tooDeep
  | levels + 1, bytes => do
    let (h, rest) ← header bytes
    let (g, rest) ← bodyBy counter h (withoutSrid (geometryBy counter levels)) rest
    return ((g, h.srid), rest)

def decodeBy (counter : Counter) (bytes : List UInt8) :
    Except Fault (Geometry × Option Int32) := do
  match ← geometryBy counter (maxDepth + 1) bytes with
  | (result, []) => return result
  | (_, rest) => throw (.trailing rest.length)

/-! ## The readers themselves -/

theorem bodyBy_count (h : Header) (member : Reader Geometry) :
    bodyBy count h member = body h member := by
  unfold bodyBy body
  cases h.kind <;> rfl

theorem geometryBy_count (levels : Nat) : geometryBy count levels = geometry levels := by
  induction levels with
  | zero => rfl
  | succ levels ih =>
    funext bytes
    rw [geometryBy, geometry, ih]
    simp only [bodyBy_count]

theorem decodeBy_count : decodeBy count = decode := by
  funext bytes
  rw [decodeBy, geometryBy_count]
  rfl

end SpatialSql.Wkb
