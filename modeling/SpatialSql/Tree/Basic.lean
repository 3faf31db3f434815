import SpatialSql.Binary64.Rounding
/-!
# Document trees

The trees in which values are stored as documents: objects with named fields, arrays, texts and
numbers.  A record is stored as an object; reading also takes an array of its fields in order.  A
choice is stored as an object with one field named for the alternative, or as the bare name when
the alternative carries nothing.

The library that turns values into documents is not part of the project.  What is above follows its
documentation and is trusted, and so are these: a number that is not finite is stored as null, an
integer stands for the nearest double where a number is wanted, unknown fields are passed over, and
an optional field may be absent or null.
-/

namespace SpatialSql

inductive Tree where
  | null
  | bool (b : Bool)
  | integer (n : Int)
  | number (x : Binary64)
  | text (s : String)
  | array (items : List Tree)
  | object (fields : List (String × Tree))
  deriving Inhabited

namespace Tree

/-- A number; documents have none that is not finite. -/
def ofNumber (x : Binary64) : Tree := if x.isFinite then .number x else .null

def ofOption (write : α → Tree) : Option α → Tree
  | some a => write a
  | none => .null

def ofList (write : α → Tree) (items : List α) : Tree := .array (items.map write)

def tagged (name : String) (value : Tree) : Tree := .object [(name, value)]

/-! ## Reading -/

def number? : Tree → Option Binary64
  | .number x => some x
  | .integer n => some (Binary64.ofInt n)
  | _ => none

def integer? (low high : Int) : Tree → Option Int
  | .integer n => if low ≤ n ∧ n ≤ high then some n else none
  | _ => none

def text? : Tree → Option String
  | .text s => some s
  | _ => none

def list? (read : Tree → Option α) : Tree → Option (List α)
  | .array items => items.mapM read
  | _ => none

def option? (read : Tree → Option α) : Tree → Option (Option α)
  | .null => some none
  | t => (read t).map some

/-- The fields of a record, in the order of `names`; a field that an object does not have is
absent.  An array has to hold at least `least` fields and no more than there are names. -/
def record? (names : List String) (least : Nat) : Tree → Option (List (Option Tree))
  | .object fields => some (names.map fun name => fields.lookup name)
  | .array items =>
    if least ≤ items.length ∧ items.length ≤ names.length then
      some (items.map some ++ List.replicate (names.length - items.length) none)
    else none
  | _ => none

def onlyField? (name : String) (t : Tree) : Option (Option Tree) := do
  match ← t.record? [name] 1 with
  | [field] => return field
  | _ => none

def required (read : Tree → Option α) (field : Option Tree) : Option α := field.bind read

def optional (read : Tree → Option α) (field : Option Tree) : Option (Option α) :=
  match field with
  | some t => option? read t
  | none => some none

/-- The name of an alternative that carries nothing. -/
def name? : Tree → Option String
  | .text name => some name
  | .object [(name, .null)] => some name
  | _ => none

end Tree

end SpatialSql
