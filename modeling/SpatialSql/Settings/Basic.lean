import SpatialSql.Error
import SpatialSql.Text.Blank
import SpatialSql.Text.CaseFold
/-!
# Settings

The schema in which metadata is looked up and the flags that shape statements.  A blank schema is
never set: where settings are put together it is passed over, and where one is changed it is
refused.
-/

namespace SpatialSql

structure Settings where
  schema : String
  /-- Bounding boxes are compared by their envelopes alone. -/
  looseBoundingBox : Bool
  /-- Extents may be asked of the catalog. -/
  estimatedExtents : Bool
  /-- Geometries may be simplified where they are read. -/
  simplify : Bool
  deriving DecidableEq

inductive Settings.Fault where
  | foreignDatabase (name : String)
  | notAFlag (key value : String)
  | blankSchema
  deriving DecidableEq

namespace Settings

def databaseName : String := "hana"

def Fault.toError : Fault → Error
  | .foreignDatabase name =>
    .of .validation ("Unsupported dbtype " ++ name ++ ", expected " ++ databaseName)
  | .notAFlag key value =>
    .of .invalidDataType ("Parameter " ++ key ++ " expects a boolean, got " ++ value)
  | .blankSchema => .of .invalidOperation "Schema name cannot be empty"

def default : Settings := ⟨"public", true, true, false⟩

/-- The settings with another schema; a blank one is passed over. -/
def withSchema (s : Settings) (schema : String) : Settings :=
  if Text.isBlank schema then s else { s with schema }

/-- The schema that is meant when one may be given; a blank one counts as none. -/
def schemaOr (s : Settings) : Option String → String
  | some schema => if Text.isBlank schema then s.schema else schema
  | none => s.schema

/-! ## Parameters -/

def databaseKey : String := "dbtype"
def schemaKey : String := "schema"
def looseBoundingBoxKey : String := "Loose bbox"
def estimatedExtentsKey : String := "Estimated extends"
def simplifyKey : String := "Support on the fly geometry simplification"

def flag? (text : String) : Option Bool :=
  let word := Text.lower (String.ofList (Text.trim text.toList))
  if word ∈ ["true", "1", "yes"] then some true
  else if word ∈ ["false", "0", "no"] then some false
  else none

/-- The flag under a key, or the present one if there is none. -/
def flagParameter (parameters : List (String × String)) (key : String) (present : Bool) :
    Except Fault Bool :=
  match parameters.lookup key with
  | none => .ok present
  | some text =>
    match flag? text with
    | some flag => .ok flag
    | none => .error (.notAFlag key text)

def ofParameters (parameters : List (String × String)) : Except Fault Settings := do
  if let some name := parameters.lookup databaseKey then
    if !Text.eqFolded name databaseName then throw (.foreignDatabase name)
  let base := (parameters.lookup schemaKey).elim default default.withSchema
  return { schema := base.schema
           looseBoundingBox := ← flagParameter parameters looseBoundingBoxKey base.looseBoundingBox
           estimatedExtents := ← flagParameter parameters estimatedExtentsKey base.estimatedExtents
           simplify := ← flagParameter parameters simplifyKey base.simplify }

/-! ## Changes -/

inductive Change where
  | schema (name : String)
  | looseBoundingBox (enabled : Bool)
  | estimatedExtents (enabled : Bool)
  | simplify (enabled : Bool)
  deriving DecidableEq

def change (s : Settings) : Change → Except Fault Settings
  | .schema name => if Text.isBlank name then .error .blankSchema else .ok { s with schema := name }
  | .looseBoundingBox enabled => .ok { s with looseBoundingBox := enabled }
  | .estimatedExtents enabled => .ok { s with estimatedExtents := enabled }
  | .simplify enabled => .ok { s with simplify := enabled }

/-- One step of putting settings together, where a blank schema is passed over. -/
def build (s : Settings) (step : Change) : Settings :=
  match s.change step with
  | .ok changed => changed
  | .error _ => s

end Settings

end SpatialSql
