import SpatialSql.Scalar.Basic
import SpatialSql.Text.Quoted
/-!
# Literals and identifiers

How identifiers and scalar values are spelled in a statement.  The two literal syntaxes differ in
byte strings only.
-/

namespace SpatialSql.Sql

inductive LiteralSyntax where
  /-- Byte strings as `X'1FAB'`. -/
  | ansi
  /-- Byte strings as `'\x1fab'`. -/
  | escaped
  deriving DecidableEq

def identifier (name : String) : String := Text.quoted '"' name

def escape (text : String) : String := String.ofList (Text.double '\'' text.toList)

def string (text : String) : String := Text.quoted '\'' text

def qualified (qualifier : Option String) (name : String) : String :=
  match qualifier with
  | some q => identifier q ++ "." ++ identifier name
  | none => identifier name

def LiteralSyntax.bytes : LiteralSyntax → List UInt8 → String
  | .ansi, bs => "X'" ++ Text.Hex.encodeUpper bs ++ "'"
  | .escaped, bs => "'\\x" ++ Text.Hex.encode bs ++ "'"

/-- The literal of a value; SQL has none for a number that is not finite. -/
def LiteralSyntax.literal (style : LiteralSyntax) : Scalar → String
  | .null => "NULL"
  | .bool b => if b then "TRUE" else "FALSE"
  | .int32 n => toString n.toInt
  | .int64 n => toString n.toInt
  | .double x => if x.isFinite then x.literal else "NULL"
  | .text s => string s
  | .bytes bs => style.bytes bs
  | .date d => string d.toText
  | .time t => string t.toText
  | .timestamp t => string (t.toText " ")
  | .uuid u => string u.toText

/-- The end of a statement that limits its rows.  An offset of zero is not written. -/
def limitClause (limit : Option UInt64) (offset : UInt64) : String :=
  (match limit with
    | some n => " LIMIT " ++ toString n.toNat
    | none => "")
    ++ (if offset = 0 then "" else " OFFSET " ++ toString offset.toNat)

end SpatialSql.Sql
