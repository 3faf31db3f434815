import SpatialSql.Binary64.Text
import SpatialSql.Scalar.Calendar
import SpatialSql.Text.Hex
/-!
# Scalar values

What a cell of a result row holds and what a literal in a statement stands for.  Geometries are
no scalars; on the wire they are bytes.
-/

namespace SpatialSql

structure Uuid where
  bytes : List UInt8
  deriving DecidableEq

/-- Five groups of lower-case digits with hyphens between them. -/
def Uuid.toText (u : Uuid) : String :=
  let group (start size : Nat) := Text.Hex.encode ((u.bytes.drop start).take size)
  "-".intercalate [group 0 4, group 4 2, group 6 2, group 8 2, group 10 6]

inductive Scalar where
  | null
  | bool (b : Bool)
  | int32 (n : Int32)
  | int64 (n : Int64)
  | double (x : Binary64)
  | text (s : String)
  | bytes (bs : List UInt8)
  | date (d : Date)
  | time (t : TimeOfDay)
  | timestamp (t : Timestamp)
  | uuid (u : Uuid)
  deriving DecidableEq

namespace Scalar

def typeName : Scalar → String
  | .null => "null"
  | .bool _ => "bool"
  | .int32 _ => "i32"
  | .int64 _ => "i64"
  | .double _ => "f64"
  | .text _ => "string"
  | .bytes _ => "bytes"
  | .date _ => "date"
  | .time _ => "time"
  | .timestamp _ => "timestamp"
  | .uuid _ => "uuid"

def isNull : Scalar → Bool
  | .null => true
  | _ => false

def bytes? : Scalar → Option (List UInt8)
  | .bytes bs => some bs
  | _ => none

def text? : Scalar → Option String
  | .text s => some s
  | _ => none

def integer? : Scalar → Option Int64
  | .int32 n => some n.toInt64
  | .int64 n => some n
  | _ => none

def double? : Scalar → Option Binary64
  | .int32 n => some (Binary64.ofInt n.toInt)
  | .int64 n => some (Binary64.ofInt n.toInt)
  | .double x => some x
  | _ => none

/-- The value for a reader; bytes are only counted. -/
def toText : Scalar → String
  | .null => "null"
  | .bool b => if b then "true" else "false"
  | .int32 n => toString n.toInt
  | .int64 n => toString n.toInt
  | .double x => x.plain
  | .text s => s
  | .bytes bs => "<" ++ toString bs.length ++ " bytes>"
  | .date d => d.toText
  | .time t => t.toText
  | .timestamp t => t.toText " "
  | .uuid u => u.toText

end Scalar

end SpatialSql
