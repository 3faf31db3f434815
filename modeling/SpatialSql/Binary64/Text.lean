import SpatialSql.Binary64.Decimal
/-!
# Numbers as text

`plain` writes a number without an exponent; `literal` writes it as SQL takes it, with a point or
an exponent in it so that it stays a floating-point literal.  `read` accepts both and, besides,
an optional sign, a point at either end and the names of the infinities and of NaN.
-/

namespace SpatialSql.Binary64

def signed (x : Binary64) (unsigned : String) : String :=
  if x.isNegative then "-" ++ unsigned else unsigned

/-- The shortest digits that read back, positional; NaN has no sign. -/
def plain (x : Binary64) : String :=
  if x.isNaN then "NaN"
  else if x.isInfinite then x.signed "inf"
  else x.signed (String.ofList (Decimal.shortest x.magnitude).positional)

/-- The shortest digits that read back: from `10 ^ 16` on, and below `10 ^ -4`, with an exponent,
otherwise with at least one digit after the point. -/
def literal (x : Binary64) : String :=
  if x.isNaN then "NaN"
  else if x.isInfinite then x.signed "inf"
  else
    let d := Decimal.shortest x.magnitude
    if 16 < d.place || (d.coefficient != 0 && d.place < -3) then
      x.signed (String.ofList d.scientific)
    else if d.exponent < 0 then x.signed (String.ofList d.positional)
    else x.signed (String.ofList (d.positional ++ ['.', '0']))

/-! ## Reading -/

inductive ReadFault where
  | empty
  | invalid
  deriving DecidableEq

def ReadFault.message : ReadFault → String
  | .empty => "cannot parse float from empty string"
  | .invalid => "invalid float literal"

def splitSign : List Char → Bool × List Char
  | '-' :: rest => (true, rest)
  | '+' :: rest => (false, rest)
  | text => (false, text)

/-- The power of ten behind a mantissa; absent when nothing is left. -/
def readExponent : List Char → Except ReadFault (Option Int)
  | [] => .ok none
  | mark :: rest =>
    if mark = 'e' ∨ mark = 'E' then
      let (negative, digits) := splitSign rest
      if digits ≠ [] ∧ digits.all Char.isDigit then
        let value : Int := Nat.ofDigitChars 10 digits 0
        .ok (some (if negative then -value else value))
      else .error .invalid
    else .error .invalid

/-- The magnitude of `digits * 10 ^ exponent`.  An exponent may be of any size, so a number above
`10 ^ 400` or below `10 ^ -400` is settled by its place alone. -/
def scaled (digits : List Char) (exponent : Int) : Nat :=
  let leading := digits.dropWhile (· == '0')
  let place : Int := leading.length + exponent
  if leading = [] ∨ place < -400 then 0
  else if 400 < place then infiniteMagnitude
  else Decimal.magnitude ⟨Nat.ofDigitChars 10 leading 0, exponent⟩

def readNumeral (text : List Char) : Except ReadFault Nat := do
  let whole := text.takeWhile Char.isDigit
  let rest := text.dropWhile Char.isDigit
  let (fraction, rest) :=
    match rest with
    | '.' :: rest => (rest.takeWhile Char.isDigit, rest.dropWhile Char.isDigit)
    | rest => ([], rest)
  if whole ++ fraction = [] then .error .invalid
  else
    match ← readExponent rest with
    | none => .ok (Decimal.magnitude ⟨Nat.ofDigitChars 10 (whole ++ fraction) 0, -fraction.length⟩)
    | some exponent => .ok (scaled (whole ++ fraction) (exponent - fraction.length))

def readMagnitude (text : List Char) : Except ReadFault Nat :=
  let lowered := text.map Char.toLower
  if lowered = "inf".toList ∨ lowered = "infinity".toList then .ok infiniteMagnitude
  else if lowered = "nan".toList then .ok nan.magnitude
  else readNumeral text

def read (text : List Char) : Except ReadFault Binary64 :=
  if text = [] then .error .empty
  else
    let (negative, unsigned) := splitSign text
    (readMagnitude unsigned).map (ofParts negative)

end SpatialSql.Binary64
