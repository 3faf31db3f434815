import SpatialSql.Geometry.Basic
/-!
# The binary format

A geometry on the wire is a byte-order marker, a type code and a body.  The code combines a kind
with the dimensions, either in thousands or as flags, and a flag tells whether a reference system
follows.  A fault counts the bytes that were left; with the size of the input that gives the
position it names.
-/

namespace SpatialSql.Wkb

inductive ByteOrder where
  | bigEndian
  | littleEndian
  deriving DecidableEq

def ByteOrder.marker : ByteOrder → UInt8
  | .bigEndian => 0
  | .littleEndian => 1

def ByteOrder.ofMarker? : UInt8 → Option ByteOrder
  | 0 => some .bigEndian
  | 1 => some .littleEndian
  | _ => none

/-- The bytes of a word, the least significant first. -/
def littleEndianBytes (value : Nat) : (width : Nat) → List UInt8
  | 0 => []
  | width + 1 => UInt8.ofNat (value % 256) :: littleEndianBytes (value / 256) width

def ofLittleEndian : List UInt8 → Nat
  | [] => 0
  | b :: rest => b.toNat + 256 * ofLittleEndian rest

def ByteOrder.encode (order : ByteOrder) (value width : Nat) : List UInt8 :=
  match order with
  | .littleEndian => littleEndianBytes value width
  | .bigEndian => (littleEndianBytes value width).reverse

def ByteOrder.decode (order : ByteOrder) (bytes : List UInt8) : Nat :=
  match order with
  | .littleEndian => ofLittleEndian bytes
  | .bigEndian => ofLittleEndian bytes.reverse

/-! ## Type codes -/

def zFlag : Nat := 0x80000000
def mFlag : Nat := 0x40000000
def sridFlag : Nat := 0x20000000

/-- What a type code says.  Its low 28 bits are the kind and a thousand for each step of the
dimensions: none, a third ordinate, a measure, both. -/
structure TypeCode where
  kind : Geometry.Kind
  z : Bool
  m : Bool
  hasSrid : Bool
  deriving DecidableEq

def TypeCode.ofNat? (code : Nat) : Option TypeCode :=
  let base := code % 0x10000000
  let dimensions := base / 1000
  if 3 < dimensions then none
  else
    (Geometry.Kind.ofCode? (base % 1000)).map fun kind =>
      { kind
        z := code / zFlag % 2 == 1 || dimensions == 1 || dimensions == 3
        m := code / mFlag % 2 == 1 || dimensions == 2 || dimensions == 3
        hasSrid := code / sridFlag % 2 == 1 }

/-- The code that is written: the kind with a flag for a third ordinate and one for a reference
system. -/
def typeCode (kind : Geometry.Kind) (z srid : Bool) : Nat :=
  kind.code + (if z then zFlag else 0) + (if srid then sridFlag else 0)

/-- Geometries may be nested this deep below the outermost one. -/
def maxDepth : Nat := 64

/-! ## Faults -/

inductive Item where
  | byteOrder
  | typeCode
  | srid
  | ordinate
  | member
  | coordinate
  | ring
  deriving DecidableEq

def Item.name : Item → String
  | .byteOrder => "byte order"
  | .typeCode => "type code"
  | .srid => "srid"
  | .ordinate => "ordinate"
  | .member => "member"
  | .coordinate => "coordinate"
  | .ring => "ring"

/-- Why some bytes are no geometry.  `left` counts the bytes behind what was read last. -/
inductive Fault where
  | endOfInput (item : Item)
  | unknownByteOrder (marker : UInt8) (left : Nat)
  | unknownTypeCode (code : Nat)
  | countTooLarge (item : Item) (count needed left : Nat)
  | notARing (index : Nat) (fault : RingFault)
  | wrongMember (container member : Geometry.Kind)
  | tooDeep
  | trailing (left : Nat)
  deriving DecidableEq

def Fault.message (size : Nat) : Fault → String
  | .endOfInput item =>
    "unexpected end of input reading " ++ item.name ++ " at offset " ++ toString size ++ " of "
      ++ toString size ++ " bytes"
  | .unknownByteOrder marker left =>
    "unknown byte order marker " ++ toString marker.toNat ++ " at offset "
      ++ toString (size - left - 1)
  | .unknownTypeCode code =>
    "unknown geometry type code 0x" ++ String.ofList (Nat.toDigits 16 code)
  | .countTooLarge item count needed left =>
    "declared " ++ item.name ++ " count " ++ toString count ++ " needs at least "
      ++ toString needed ++ " bytes, " ++ toString left ++ " remain of " ++ toString size
  | .notARing index fault => "ring " ++ toString index ++ ": Invalid operation: " ++ fault.message
  | .wrongMember container member => container.name ++ " cannot contain a " ++ member.name
  | .tooDeep => "geometry nesting deeper than " ++ toString maxDepth
  | .trailing left =>
    toString left ++ " trailing bytes after geometry of " ++ toString (size - left) ++ " bytes"

end SpatialSql.Wkb
