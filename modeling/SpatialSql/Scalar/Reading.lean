import SpatialSql.Scalar.Basic
import SpatialSql.Text.Blank
/-!
# Reading dates, times and identifiers

The notation of ISO 8601 with some room: white space may stand in front of every number and
around the separators, numbers may lack their leading zeros, and a time of day may lack its
seconds.  The readers themselves are not part of the project, and the room that they leave follows
their documentation and is trusted.
-/

namespace SpatialSql.Scalar.Reading

/-- Takes what it reads from the front of a text. -/
abbrev Scanner (α : Type) := List Char → Option (α × List Char)

/-- From one to `most` digits, and how many they were. -/
def digits (most : Nat) : Scanner (Nat × Nat) := fun text =>
  let taken := (text.take most).takeWhile Char.isDigit
  if taken.isEmpty then none
  else some ((Nat.ofDigitChars 10 taken 0, taken.length), text.drop taken.length)

def number (most : Nat) : Scanner Nat := fun text => do
  let ((n, _), rest) ← digits most (Text.trimStart text)
  return (n, rest)

/-- A year: four digits at most, or any number behind a sign. -/
def year : Scanner Int := fun text => do
  match Text.trimStart text with
  | '-' :: rest =>
    let ((n, _), rest) ← digits rest.length rest
    return (-(n : Int), rest)
  | '+' :: rest =>
    let ((n, _), rest) ← digits rest.length rest
    return ((n : Int), rest)
  | rest =>
    let ((n, _), rest) ← digits 4 rest
    return ((n : Int), rest)

def separator (c : Char) (text : List Char) : Option (List Char) :=
  match Text.trimStart text with
  | found :: rest => if found = c then some rest else none
  | [] => none

def atEnd (text : List Char) : Option Unit := if text.all Text.isBlankChar then some () else none

def datePart : Scanner Date := fun text => do
  let (year, rest) ← year text
  let rest ← separator '-' rest
  let (month, rest) ← number 2 rest
  let rest ← separator '-' rest
  let (day, rest) ← number 2 rest
  return (← Date.ofParts? year month day, rest)

/-- A fraction of a second in nanoseconds; digits behind the ninth are skipped. -/
def fraction : Scanner Nat
  | '.' :: rest => do
    let ((n, count), rest) ← digits 9 rest
    return (n * Nat.pow 10 (9 - count), rest.dropWhile Char.isDigit)
  | rest => some (0, rest)

def seconds : Scanner (Nat × Nat) := fun text => do
  let rest ← separator ':' text
  let (second, rest) ← number 2 rest
  let (fraction, rest) ← fraction rest
  return ((second, fraction), rest)

def hourAndMinute : Scanner (Nat × Nat) := fun text => do
  let (hour, rest) ← number 2 text
  let rest ← separator ':' rest
  let (minute, rest) ← number 2 rest
  return ((hour, minute), rest)

def date (text : String) : Option Date := do
  let (d, rest) ← datePart text.toList
  atEnd rest
  return d

def time (text : String) : Option TimeOfDay := do
  let ((hour, minute), rest) ← hourAndMinute text.toList
  let ((second, fraction), rest) := (seconds rest).getD ((0, 0), rest)
  atEnd rest
  TimeOfDay.ofParts? hour minute second fraction

def timestamp (text : String) : Option Timestamp := do
  let (d, rest) ← datePart text.toList
  let rest ← separator 'T' rest
  let ((hour, minute), rest) ← hourAndMinute rest
  let ((second, fraction), rest) ← seconds rest
  atEnd rest
  return ⟨d, ← TimeOfDay.ofParts? hour minute second fraction⟩

/-- Hexadecimal digits in groups of 8, 4, 4, 4 and 12, with hyphens between them. -/
def ungroup (text : List Char) : Option (List Char) :=
  let hyphens := [8, 13, 18, 23]
  if text.length = 36 ∧ hyphens.all fun i => text[i]? == some '-' then
    some (text.take 8 ++ (text.drop 9).take 4 ++ (text.drop 14).take 4 ++ (text.drop 19).take 4
      ++ text.drop 24)
  else none

/-- The digits of an identifier: alone, in groups, in groups between braces, or in groups behind
the name of their scheme, whose case does not matter. -/
def uuidDigits (text : List Char) : Option (List Char) :=
  let opening := Char.ofNat 0x7b
  let closing := Char.ofNat 0x7d
  let scheme := "urn:uuid:".toList
  if text.length = 32 then some text
  else if text.length = 36 then ungroup text
  else if text.length = 38 ∧ text.head? = some opening ∧ text.getLast? = some closing then
    ungroup (text.tail.take 36)
  else if text.length = 45 ∧ (text.take 9).map Char.toLower = scheme then ungroup (text.drop 9)
  else none

def uuid (text : String) : Option Uuid := do
  let digits ← uuidDigits text.toList
  match Text.Hex.decode (String.ofList digits) with
  | .ok bs => if bs.length = 16 then some ⟨bs⟩ else none
  | .error _ => none

end SpatialSql.Scalar.Reading
