import SpatialSql.Error
import SpatialSql.Binary64.Text
import SpatialSql.Text.Integer
/-!
# Errors from outside

What input and output, formatting and number reading report, as errors of this library.
-/

namespace SpatialSql.Error

def ofIo (text : String) : Error := .of .io ("IO error: " ++ text)

/-- A formatting error says no more than that it happened. -/
def formatting : Error :=
  .of .internal "Formatting error: an error occurred when formatting an argument"

def ofIntegerFault (fault : Text.IntegerFault) : Error :=
  .of .invalidDataType ("Integer parsing error: " ++ fault.message)

def ofNumberFault (fault : Binary64.ReadFault) : Error :=
  .of .invalidDataType ("Float parsing error: " ++ fault.message)

def ofText (text : String) : Error := .of .internal text

end SpatialSql.Error
