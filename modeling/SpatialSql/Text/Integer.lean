/-!
# Integers as text

Reading a 32-bit integer, digit by digit: at each character the digit is looked at before the
size, so of two faults the one further left is reported.  Writing pads with zeros.
-/

namespace SpatialSql.Text

inductive IntegerFault where
  | empty
  | invalidDigit
  | tooLarge
  | tooSmall
  deriving DecidableEq

def IntegerFault.message : IntegerFault → String
  | .empty => "cannot parse integer from empty string"
  | .invalidDigit => "invalid digit found in string"
  | .tooLarge => "number too large to fit in target type"
  | .tooSmall => "number too small to fit in target type"

/-- Digits read on from `value`, up to `limit`. -/
def readUpTo (limit : Nat) (overflow : IntegerFault) :
    (value : Nat) → List Char → Except IntegerFault Nat
  | value, [] => .ok value
  | value, c :: rest =>
    if !c.isDigit then .error .invalidDigit
    else
      let next := 10 * value + (c.toNat - '0'.toNat)
      if limit < next then .error overflow else readUpTo limit overflow next rest

def readInt32 (text : String) : Except IntegerFault Int :=
  match text.toList with
  | [] => .error .empty
  | ['-'] | ['+'] => .error .invalidDigit
  | '-' :: digits => (readUpTo 0x80000000 .tooSmall 0 digits).map fun n => -(n : Int)
  | '+' :: digits | digits => (readUpTo 0x7FFFFFFF .tooLarge 0 digits).map fun n => (n : Int)

def padded (width n : Nat) : String :=
  let digits := Nat.toDigits 10 n
  String.ofList (List.replicate (width - digits.length) '0' ++ digits)

end SpatialSql.Text
