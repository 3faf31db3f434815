import SpatialSql.Wkb.Format
/-!
# Reading the binary format

Every header chooses its own byte order and dimensions.  A declared count is held against the
bytes that are left before anything behind it is read.  Measures are read and dropped, a third
ordinate that is NaN counts as absent, and a point whose first two ordinates are NaN is empty.
-/

namespace SpatialSql.Wkb

/-- Takes what it reads from the front of the bytes. -/
abbrev Reader (α : Type) := List UInt8 → Except Fault (α × List UInt8)

def word (order : ByteOrder) (width : Nat) (item : Item) : Reader Nat := fun bytes =>
  let taken := bytes.take width
  if taken.length < width then .error (.endOfInput item)
  else .ok (order.decode taken, bytes.drop width)

structure Header where
  order : ByteOrder
  kind : Geometry.Kind
  z : Bool
  m : Bool
  srid : Option Int32
  deriving DecidableEq

def byteOrder : Reader ByteOrder
  | [] => .error (.endOfInput .byteOrder)
  | marker :: rest =>
    match ByteOrder.ofMarker? marker with
    | some order => .ok (order, rest)
    | none => .error (.unknownByteOrder marker rest.length)

def srid (order : ByteOrder) (hasSrid : Bool) : Reader (Option Int32) := fun bytes =>
  if hasSrid then do
    let (value, rest) ← word order 4 .srid bytes
    return (some (UInt32.ofNat value).toInt32, rest)
  else .ok (none, bytes)

def header : Reader Header := fun bytes => do
  let (order, rest) ← byteOrder bytes
  let (code, rest) ← word order 4 .typeCode rest
  match TypeCode.ofNat? code with
  | none => throw (.unknownTypeCode code)
  | some type =>
    let (srid, rest) ← srid order type.hasSrid rest
    return (⟨order, type.kind, type.z, type.m, srid⟩, rest)

/-- A count of items that take at least `size` bytes each. -/
def count (order : ByteOrder) (size : Nat) (item : Item) : Reader Nat := fun bytes => do
  let (count, rest) ← word order 4 item bytes
  if rest.length < count * size then
    throw (.countTooLarge item count (count * size) rest.length)
  else return (count, rest)

def repeated (item : Nat → Reader α) : (index count : Nat) → Reader (List α)
  | _, 0, bytes => .ok ([], bytes)
  | index, count + 1, bytes => do
    let (first, rest) ← item index bytes
    let (others, rest) ← repeated item (index + 1) count rest
    return (first :: others, rest)

/-! ## Bodies -/

def ordinate (h : Header) : Reader Binary64 := fun bytes => do
  let (bits, rest) ← word h.order 8 .ordinate bytes
  return (⟨UInt64.ofNat bits⟩, rest)

def optionalOrdinate (h : Header) (present : Bool) : Reader (Option Binary64) := fun bytes =>
  if present then do
    let (x, rest) ← ordinate h bytes
    return (some x, rest)
  else .ok (none, bytes)

def coordinate (h : Header) : Reader Coordinate := fun bytes => do
  let (x, rest) ← ordinate h bytes
  let (y, rest) ← ordinate h rest
  let (z, rest) ← optionalOrdinate h h.z rest
  let (_, rest) ← optionalOrdinate h h.m rest
  return (⟨x, y, z.filter fun z => !z.isNaN⟩, rest)

def point (h : Header) : Reader Point := fun bytes => do
  let (c, rest) ← coordinate h bytes
  return (if c.x.isNaN && c.y.isNaN then none else some c, rest)

def coordinateSize (h : Header) : Nat := 8 * (2 + h.z.toNat + h.m.toNat)

def path (h : Header) : Reader Path := fun bytes => do
  let (count, rest) ← count h.order (coordinateSize h) .coordinate bytes
  repeated (fun _ => coordinate h) 0 count rest

def ring (h : Header) (index : Nat) : Reader Path := fun bytes => do
  let (path, rest) ← path h bytes
  match path.ring with
  | .ok ring => return (ring, rest)
  | .error fault => throw (.notARing index fault)

def polygon (h : Header) : Reader Polygon := fun bytes => do
  let (count, rest) ← count h.order 4 .ring bytes
  repeated (ring h) 0 count rest

/-- The least size of a member: a header without a reference system and a count. -/
def leastMemberSize : Nat := 9

/-- A member, a geometry of its own that has to be of a kind the container accepts. -/
def accepted (h : Header) (member : Reader Geometry) (accept : Geometry → Option α) : Reader α :=
  fun bytes => do
    let (g, rest) ← member bytes
    match accept g with
    | some a => return (a, rest)
    | none => throw (.wrongMember h.kind g.kind)

def members (h : Header) (member : Reader Geometry) (accept : Geometry → Option α) :
    Reader (List α) := fun bytes => do
  let (count, rest) ← count h.order leastMemberSize .member bytes
  repeated (fun _ => accepted h member accept) 0 count rest

def point? : Geometry → Option Point
  | .point p => some p
  | _ => none

def path? : Geometry → Option Path
  | .lineString path => some path
  | _ => none

def polygon? : Geometry → Option Polygon
  | .polygon rings => some rings
  | _ => none

def build (f : α → Geometry) (reader : Reader α) : Reader Geometry := fun bytes => do
  let (a, rest) ← reader bytes
  return (f a, rest)

/-- The body behind a header; `member` reads members.  No type code has the generic kind. -/
def body (h : Header) (member : Reader Geometry) : Reader Geometry :=
  match h.kind with
  | .point => build .point (point h)
  | .lineString => build .lineString (path h)
  | .polygon => build .polygon (polygon h)
  | .multiPoint => build .multiPoint (members h member point?)
  | .multiLineString => build .multiLineString (members h member path?)
  | .multiPolygon => build .multiPolygon (members h member polygon?)
  | .collection => build .collection (members h member some)
  | .generic => fun _ => .error (.unknownTypeCode 0)

/-- A geometry alone; the reference system of a member is read and dropped. -/
def withoutSrid (reader : Reader (Geometry × Option Int32)) : Reader Geometry := fun bytes => do
  let ((g, _), rest) ← reader bytes
  return (g, rest)

/-- A geometry with at most `levels` levels, itself included, and its reference system. -/
def geometry : (levels : Nat) → Reader (Geometry × Option Int32)
  | 0, _ => .error .tooDeep
  | levels + 1, bytes => do
    let (h, rest) ← header bytes
    let (g, rest) ← body h (withoutSrid (geometry levels)) rest
    return ((g, h.srid), rest)

def decode (bytes : List UInt8) : Except Fault (Geometry × Option Int32) := do
  match ← geometry (maxDepth + 1) bytes with
  | (result, []) => return result
  | (_, rest) => throw (.trailing rest.length)

end SpatialSql.Wkb
