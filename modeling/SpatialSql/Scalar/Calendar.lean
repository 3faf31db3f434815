import SpatialSql.Text.Integer
/-!
# Dates and times of day

Calendar dates of the proleptic Gregorian calendar and times of day without a zone.  A leap
second is second 59 with a thousand million nanoseconds or more.

The calendar that the values come from is not part of the project: the range of its years, its leap
seconds and its texts follow its documentation and are trusted.
-/

namespace SpatialSql

structure Date where
  year : Int
  month : Nat
  day : Nat
  deriving DecidableEq

namespace Date

def isLeapYear (year : Int) : Bool := year % 4 == 0 && (year % 100 != 0 || year % 400 == 0)

def daysInMonth (year : Int) (month : Nat) : Nat :=
  if month = 2 then if isLeapYear year then 29 else 28
  else if month ∈ [4, 6, 9, 11] then 30
  else 31

/-- The date with these parts, if the calendar has it and its year is in range. -/
def ofParts? (year : Int) (month day : Nat) : Option Date :=
  if -262143 ≤ year ∧ year ≤ 262142 ∧ 1 ≤ month ∧ month ≤ 12
      ∧ 1 ≤ day ∧ day ≤ daysInMonth year month then
    some ⟨year, month, day⟩
  else none

/-- Four digits; outside of them a sign and at least four. -/
def yearText (year : Int) : String :=
  if 0 ≤ year ∧ year ≤ 9999 then Text.padded 4 year.toNat
  else (if year < 0 then "-" else "+") ++ Text.padded 4 year.natAbs

def toText (d : Date) : String :=
  yearText d.year ++ "-" ++ Text.padded 2 d.month ++ "-" ++ Text.padded 2 d.day

end Date

structure TimeOfDay where
  hour : Nat
  minute : Nat
  second : Nat
  nanosecond : Nat
  deriving DecidableEq

namespace TimeOfDay

def nanosPerSecond : Nat := 1000000000

/-- The time with these parts; `second` 60 is the leap second behind second 59. -/
def ofParts? (hour minute second nanosecond : Nat) : Option TimeOfDay :=
  if hour < 24 ∧ minute < 60 ∧ second ≤ 60 ∧ nanosecond < nanosPerSecond then
    some (if second = 60 then ⟨hour, minute, 59, nanosPerSecond + nanosecond⟩
      else ⟨hour, minute, second, nanosecond⟩)
  else none

/-- The fraction of a second behind its point, in the least of 0, 3, 6 and 9 digits. -/
def fractionText (nanosecond : Nat) : String :=
  let fraction := nanosecond % nanosPerSecond
  if fraction = 0 then ""
  else if fraction % 1000000 = 0 then "." ++ Text.padded 3 (fraction / 1000000)
  else if fraction % 1000 = 0 then "." ++ Text.padded 6 (fraction / 1000)
  else "." ++ Text.padded 9 fraction

def toText (t : TimeOfDay) : String :=
  Text.padded 2 t.hour ++ ":" ++ Text.padded 2 t.minute ++ ":"
    ++ Text.padded 2 (t.second + t.nanosecond / nanosPerSecond) ++ fractionText t.nanosecond

end TimeOfDay

structure Timestamp where
  date : Date
  time : TimeOfDay
  deriving DecidableEq

def Timestamp.toText (t : Timestamp) (separator : String) : String :=
  t.date.toText ++ separator ++ t.time.toText

end SpatialSql
