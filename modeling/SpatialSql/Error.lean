/-!
# Errors

An `Error` says what failed and of which kind the failure is, and names the errors that led to
it.  A `Failure` is an error of the spatial layer; it converts to an `Error` of a fixed kind.
-/

namespace SpatialSql

inductive Error.Kind where
  | filter
  | invalidOperation
  | encoding
  | catalog
  | io
  | validation
  | invalidDataType
  | extension (name : String)
  | internal
  deriving DecidableEq

def Error.Kind.describe : Error.Kind → String
  | .filter => "Filter error"
  | .invalidOperation => "Invalid operation"
  | .encoding => "Encoding error"
  | .catalog => "Catalog error"
  | .io => "IO error"
  | .validation => "Validation error"
  | .invalidDataType => "Invalid data type"
  | .extension name => name ++ " error"
  | .internal => "Internal error"

def Error.Kind.name : Error.Kind → String
  | .filter => "FilterError"
  | .invalidOperation => "InvalidOperation"
  | .encoding => "EncodingError"
  | .catalog => "CatalogError"
  | .io => "IOError"
  | .validation => "ValidationError"
  | .invalidDataType => "InvalidDataType"
  | .extension name => "Extension:" ++ name
  | .internal => "InternalError"

def Error.Kind.plain : List Error.Kind :=
  [.filter, .invalidOperation, .encoding, .catalog, .io, .validation, .invalidDataType, .internal]

structure Error.Link where
  kind : Error.Kind
  message : String
  deriving DecidableEq

/-- An error and its causes, the nearest first. -/
structure Error extends Error.Link where
  causes : List Error.Link
  deriving DecidableEq

namespace Error

def of (kind : Kind) (message : String) : Error := ⟨⟨kind, message⟩, []⟩

def causing (cause : Error) (kind : Kind) (message : String) : Error :=
  ⟨⟨kind, message⟩, cause.toLink :: cause.causes⟩

def cause? (e : Error) : Option Error :=
  match e.causes with
  | [] => none
  | link :: rest => some ⟨link, rest⟩

def chain (e : Error) : List Link := e.toLink :: e.causes

/-- The messages of the chain, each cause on a line of its own. -/
def report (e : Error) : String :=
  "\nCaused by: ".intercalate (e.chain.map Link.message)

end Error

inductive Failure where
  | malformedWireFormat (detail : String)
  | unsupportedPredicate (detail : String)
  | catalogProbe (detail : String)
  | textParse (detail : String)
  | invalidOperation (detail : String)
  | general (error : Error)
  deriving DecidableEq

namespace Failure

def message : Failure → String
  | .malformedWireFormat detail => "Malformed wire format: " ++ detail
  | .unsupportedPredicate detail => "Unsupported predicate: " ++ detail
  | .catalogProbe detail => "Catalog probe failed: " ++ detail
  | .textParse detail => "Text parse failure: " ++ detail
  | .invalidOperation detail => "Invalid operation: " ++ detail
  | .general error => error.message

def category : Failure → String
  | .malformedWireFormat _ => "MalformedWireFormat"
  | .unsupportedPredicate _ => "UnsupportedPredicate"
  | .catalogProbe _ => "CatalogProbeFailure"
  | .textParse _ => "TextParseFailure"
  | .invalidOperation _ => "InvalidOperation"
  | .general _ => "Core"

/-- Only an invalid operation loses its heading. -/
def toError (f : Failure) : Error :=
  match f with
  | .malformedWireFormat _ => .of .encoding f.message
  | .unsupportedPredicate _ => .of .filter f.message
  | .catalogProbe _ => .of .catalog f.message
  | .textParse _ => .of .encoding f.message
  | .invalidOperation detail => .of .validation detail
  | .general error => error

end Failure

end SpatialSql
