import SpatialSql.Error
import SpatialSql.Scalar.Basic
import SpatialSql.Text.CaseFold
/-!
# Result rows

A row holds named cells in the order in which the names were first set.  A cell is found by
position, or by name: a name that fits exactly wins over the first one that fits without regard
to case.

The map behind a row is not part of the project.  That it keeps the order in which keys were first
set, that a key set again keeps its place and that it can be read by position follow its
documentation and are trusted; here it is a list of pairs with the same behaviour.
-/

namespace SpatialSql

inductive ColumnRef where
  | named (name : String)
  | position (index : Nat)
  deriving DecidableEq

def ColumnRef.toText : ColumnRef → String
  | .named name => name
  | .position index => "#" ++ toString index

structure Row where
  cells : List (String × Scalar)
  deriving DecidableEq

inductive Row.Fault where
  | missing (column : ColumnRef)
  | mismatch (column : ColumnRef) (actual : Scalar) (wanted : String)

namespace Row

def Fault.toError : Fault → Error
  | .missing column => .of .catalog ("Column " ++ column.toText ++ " not found in result row")
  | .mismatch column actual wanted =>
    .of .invalidDataType ("Column " ++ column.toText ++ " holds a " ++ actual.typeName
      ++ " value, expected " ++ wanted)

def empty : Row := ⟨[]⟩

/-- Cells with one set: in place if the name is there, otherwise behind the others. -/
def setCell (name : String) (value : Scalar) : List (String × Scalar) → List (String × Scalar)
  | [] => [(name, value)]
  | cell :: rest =>
    if cell.1 = name then (name, value) :: rest else cell :: setCell name value rest

def set (row : Row) (name : String) (value : Scalar) : Row := ⟨setCell name value row.cells⟩

def ofCells (cells : List (String × Scalar)) : Row :=
  cells.foldl (fun row (name, value) => row.set name value) empty

def size (row : Row) : Nat := row.cells.length

def columns (row : Row) : List String := row.cells.map Prod.fst

def get? (row : Row) : ColumnRef → Option Scalar
  | .position index => (row.cells[index]?).map Prod.snd
  | .named name =>
    ((row.cells.find? fun cell => cell.1 == name).or
      (row.cells.find? fun cell => Text.eqFolded cell.1 name)).map Prod.snd

def get (row : Row) (column : ColumnRef) : Except Fault Scalar :=
  match row.get? column with
  | some value => .ok value
  | none => .error (.missing column)

/-- A cell through a reader of its type; a null gives no value. -/
def getAs (row : Row) (column : ColumnRef) (wanted : String) (read : Scalar → Option α) :
    Except Fault (Option α) := do
  match ← row.get column with
  | .null => return none
  | value =>
    match read value with
    | some a => return some a
    | none => throw (.mismatch column value wanted)

def bytes (row : Row) (column : ColumnRef) : Except Fault (Option (List UInt8)) :=
  row.getAs column "bytes" Scalar.bytes?

def text (row : Row) (column : ColumnRef) : Except Fault (Option String) :=
  row.getAs column "string" Scalar.text?

def integer (row : Row) (column : ColumnRef) : Except Fault (Option Int64) :=
  row.getAs column "integer" Scalar.integer?

end Row

end SpatialSql
