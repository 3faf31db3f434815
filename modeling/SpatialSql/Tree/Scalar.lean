import SpatialSql.Scalar.Reading
import SpatialSql.Tree.Basic
/-!
# Scalar values as trees
-/

namespace SpatialSql.Scalar

def toTree : Scalar → Tree
  | .null => .text "Null"
  | .bool b => .tagged "Bool" (.bool b)
  | .int32 n => .tagged "I32" (.integer n.toInt)
  | .int64 n => .tagged "I64" (.integer n.toInt)
  | .double x => .tagged "F64" (.ofNumber x)
  | .text s => .tagged "String" (.text s)
  | .bytes bs => .tagged "Bytes" (.ofList (fun b => .integer b.toNat) bs)
  | .date d => .tagged "Date" (.text d.toText)
  | .time t => .tagged "Time" (.text t.toText)
  | .timestamp t => .tagged "Timestamp" (.text (t.toText "T"))
  | .uuid u => .tagged "Uuid" (.text u.toText)

def byte? (t : Tree) : Option UInt8 := (t.integer? 0 255).map fun n => UInt8.ofNat n.toNat

def ofTagged? (tag : String) (value : Tree) : Option Scalar :=
  match tag with
  | "Null" =>
    match value with
    | .null => some .null
    | _ => none
  | "Bool" =>
    match value with
    | .bool b => some (.bool b)
    | _ => none
  | "I32" => (value.integer? (-0x80000000) 0x7FFFFFFF).map fun n => .int32 (Int32.ofInt n)
  | "I64" =>
    (value.integer? (-0x8000000000000000) 0x7FFFFFFFFFFFFFFF).map fun n => .int64 (Int64.ofInt n)
  | "F64" => value.number?.map .double
  | "String" => value.text?.map .text
  | "Bytes" => (value.list? byte?).map .bytes
  | "Date" => do return .date (← Reading.date (← value.text?))
  | "Time" => do return .time (← Reading.time (← value.text?))
  | "Timestamp" => do return .timestamp (← Reading.timestamp (← value.text?))
  | "Uuid" => do return .uuid (← Reading.uuid (← value.text?))
  | _ => none

def ofTree? : Tree → Option Scalar
  | .text "Null" => some .null
  | .object [(tag, value)] => ofTagged? tag value
  | _ => none

end SpatialSql.Scalar
