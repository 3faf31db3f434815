/-!
# Hexadecimal text

Bytes as two digits each, in either case.  Reading looks at the length of the text first and then
stops at the first byte that is no digit.

The codec that does this is not part of the project.  Its alphabets, the order of its checks, the
position that it reports and the wording of its faults follow its documentation: they are trusted,
and nothing here proves them.
-/

namespace SpatialSql.Text.Hex

def lowerDigits : List Char := "0123456789abcdef".toList
def upperDigits : List Char := "0123456789ABCDEF".toList

def encodeWith (alphabet : List Char) (bytes : List UInt8) : String :=
  String.ofList (bytes.flatMap fun b =>
    [alphabet.getD (b.toNat / 16) '0', alphabet.getD (b.toNat % 16) '0'])

def encode (bytes : List UInt8) : String := encodeWith lowerDigits bytes

def encodeUpper (bytes : List UInt8) : String := encodeWith upperDigits bytes

def digitValue? (code : UInt8) : Option UInt8 :=
  if 0x30 ≤ code ∧ code ≤ 0x39 then some (code - 0x30)
  else if 0x41 ≤ code ∧ code ≤ 0x46 then some (code - 0x41 + 10)
  else if 0x61 ≤ code ∧ code ≤ 0x66 then some (code - 0x61 + 10)
  else none

inductive Fault where
  | oddLength
  | notADigit (code : UInt8) (position : Nat)
  deriving DecidableEq

/-- A byte below `U+0100` between single quotes, with escapes for the quote, the backslash and
what does not print. -/
def quotedByte (code : UInt8) : String :=
  let body :=
    if code = 0 then "\\0"
    else if code = 0x09 then "\\t"
    else if code = 0x0a then "\\n"
    else if code = 0x0d then "\\r"
    else if code = 0x27 then "\\'"
    else if code = 0x5c then "\\\\"
    else if code < 0x20 ∨ (0x7f ≤ code ∧ code ≤ 0xa0) ∨ code = 0xad then
      "\\u\x7b" ++ String.ofList (Nat.toDigits 16 code.toNat) ++ "\x7d"
    else String.singleton (Char.ofNat code.toNat)
  "'" ++ body ++ "'"

def Fault.message : Fault → String
  | .oddLength => "Odd number of digits"
  | .notADigit code position =>
    "Invalid character " ++ quotedByte code ++ " at position " ++ toString position

/-- The bytes before the first fault, and the fault if there is one.  `position` counts the text
already read. -/
def unpack : List UInt8 → (position : Nat) → List UInt8 × Option Fault
  | high :: low :: rest, position =>
    match digitValue? high, digitValue? low with
    | some h, some l =>
      let (bytes, fault) := unpack rest (position + 2)
      ((16 * h + l) :: bytes, fault)
    | none, _ => ([], some (.notADigit high position))
    | some _, none => ([], some (.notADigit low (position + 1)))
  | [_], _ => ([], some .oddLength)
  | [], _ => ([], none)

/-- The bytes of a text as far as it can be read, and the fault if there is one. -/
def unpackText (text : String) : List UInt8 × Option Fault :=
  let codes := text.toUTF8.data.toList
  if codes.length % 2 = 1 then ([], some .oddLength) else unpack codes 0

def decode (text : String) : Except Fault (List UInt8) :=
  match unpackText text with
  | (bytes, none) => .ok bytes
  | (_, some fault) => .error fault

end SpatialSql.Text.Hex
