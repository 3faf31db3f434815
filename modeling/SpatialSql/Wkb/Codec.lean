import SpatialSql.Row
import SpatialSql.Wkb.Reading
import SpatialSql.Wkb.Writing
/-!
# Codecs

A codec writes in one byte order and keeps a buffer, in which it encodes and unpacks hexadecimal
cells.  Reading needs neither.
-/

namespace SpatialSql.Wkb

structure Codec where
  order : ByteOrder
  buffer : List UInt8
  deriving DecidableEq

inductive CellFault where
  | row (fault : Row.Fault)
  | notHex (column : ColumnRef) (fault : Text.Hex.Fault)
  | notBinary (column : ColumnRef) (actual : Scalar)
  | malformed (column : ColumnRef) (size : Nat) (fault : Fault)

def CellFault.toFailure : CellFault → Failure
  | .row fault => .general fault.toError
  | .notHex column fault =>
    .malformedWireFormat ("column " ++ column.toText ++ " holds invalid hex: " ++ fault.message)
  | .notBinary column actual =>
    .malformedWireFormat ("column " ++ column.toText ++ " holds " ++ actual.typeName
      ++ " instead of geometry bytes")
  | .malformed column size fault =>
    .malformedWireFormat ("column " ++ column.toText ++ ": " ++ fault.message size)

namespace Codec

def ofOrder (order : ByteOrder) : Codec := ⟨order, []⟩

def default : Codec := ofOrder .littleEndian

def encode (codec : Codec) (g : Geometry) (srid : Option Int32) : Codec :=
  { codec with buffer := Wkb.encode codec.order g srid }

/-- Unpacks hexadecimal text into the buffer, which holds a zero for every two bytes of text before
that; behind a fault the zeros stay. -/
def unpack (codec : Codec) (text : String) : Except Text.Hex.Fault Unit × Codec :=
  let (bytes, fault) := Text.Hex.unpackText text
  let zeros : List UInt8 := List.replicate (text.utf8ByteSize / 2 - bytes.length) 0
  (match fault with
    | some fault => .error fault
    | none => .ok (),
    { codec with buffer := bytes ++ zeros })

def decodeCell (column : ColumnRef) (bytes : List UInt8) :
    Except CellFault (Option Geometry) :=
  match decode bytes with
  | .ok (g, _) => .ok (some g)
  | .error fault => .error (.malformed column bytes.length fault)

/-- The geometry in a cell: bytes, or hexadecimal text as some drivers return it.  A null is no
geometry. -/
def read (codec : Codec) (row : Row) (column : ColumnRef) :
    Except CellFault (Option Geometry) × Codec :=
  match row.get column with
  | .error fault => (.error (.row fault), codec)
  | .ok .null => (.ok none, codec)
  | .ok (.bytes bytes) => (decodeCell column bytes, codec)
  | .ok (.text text) =>
    match codec.unpack text with
    | (.error fault, codec) => (.error (.notHex column fault), codec)
    | (.ok (), codec) => (decodeCell column codec.buffer, codec)
  | .ok actual => (.error (.notBinary column actual), codec)

end Codec

def Fault.toFailure (size : Nat) (fault : Fault) : Failure :=
  .malformedWireFormat (fault.message size)

end SpatialSql.Wkb
