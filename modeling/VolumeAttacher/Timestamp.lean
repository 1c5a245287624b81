/-!
# Points in time

A point in time is a count of seconds since 1970-01-01T00:00:00 in universal time and nanoseconds
past it. During a leap second the nanoseconds go on counting past one thousand million. The text of
one follows RFC 3339, in universal time.
-/

namespace VolumeAttacher

/-- A point in universal time. -/
structure Timestamp where
  seconds : Int
  nanos : Nat
  deriving DecidableEq, Inhabited

namespace Timestamp

/-- A day of the calendar. -/
structure Date where
  year : Int
  month : Nat
  day : Nat
  deriving DecidableEq

/-- Whether February of a year has 29 days. -/
def isLeapYear (year : Int) : Bool :=
  year % 4 = 0 && (year % 100 != 0 || year % 400 = 0)

/-- The length of a month. -/
def daysInMonth (year : Int) (month : Nat) : Nat :=
  if month = 2 then (if isLeapYear year then 29 else 28)
  else if month ∈ [4, 6, 9, 11] then 30
  else 31

/-- The days from 1970-01-01 to a date. Years count from March, so that a leap day is the last of
its year. -/
def Date.dayNumber (date : Date) : Int :=
  let year := if date.month ≤ 2 then date.year - 1 else date.year
  let era := year / 400
  let yearOfEra := year % 400
  let monthFromMarch : Int := ((date.month : Int) + 9) % 12
  let dayOfYear := (153 * monthFromMarch + 2) / 5 + date.day - 1
  let dayOfEra := yearOfEra * 365 + yearOfEra / 4 - yearOfEra / 100 + dayOfYear
  era * 146097 + dayOfEra - 719468

/-- The date so many days after 1970-01-01. -/
def Date.ofDayNumber (number : Int) : Date :=
  let shifted := number + 719468
  let era := shifted / 146097
  let dayOfEra := shifted % 146097
  let yearOfEra :=
    (dayOfEra - dayOfEra / 1460 + dayOfEra / 36524 - dayOfEra / 146096) / 365
  let dayOfYear := dayOfEra - (365 * yearOfEra + yearOfEra / 4 - yearOfEra / 100)
  let monthFromMarch := (5 * dayOfYear + 2) / 153
  let day := dayOfYear - (153 * monthFromMarch + 2) / 5 + 1
  let month := if monthFromMarch < 10 then monthFromMarch + 3 else monthFromMarch - 9
  let year := yearOfEra + era * 400 + (if month ≤ 2 then 1 else 0)
  ⟨year, month.toNat, day.toNat⟩

/-- Nanoseconds in a second. -/
def perSecond : Nat := 1000000000

/-- The time so many whole microseconds in. -/
def toMicros (time : Timestamp) : Timestamp :=
  { time with nanos := time.nanos / 1000 * 1000 }

/-- A time a number of nanoseconds later. -/
def plusNanos (time : Timestamp) (nanos : Nat) : Timestamp :=
  let total := time.nanos + nanos
  ⟨time.seconds + (total / perSecond : Nat), total % perSecond⟩

/-- A number in decimal notation, with zeros in front up to a width. -/
def padded (width value : Nat) : String :=
  let digits := Nat.toDigits 10 value
  String.ofList (List.replicate (width - digits.length) '0' ++ digits)

/-- A year: four digits, and a sign outside of 0 to 9999. -/
def yearText (year : Int) : String :=
  if 0 ≤ year && year ≤ 9999 then padded 4 year.toNat
  else if year < 0 then "-" ++ padded 4 (-year).toNat
  else "+" ++ padded 4 year.toNat

/-- The date and the time of day to the second; a leap second is the sixtieth of its minute. -/
def wholeText (time : Timestamp) : String :=
  let date := Date.ofDayNumber (time.seconds / 86400)
  let secondOfDay := (time.seconds % 86400).toNat
  let leap := time.nanos / perSecond
  yearText date.year ++ "-" ++ padded 2 date.month ++ "-" ++ padded 2 date.day ++ "T" ++
    padded 2 (secondOfDay / 3600) ++ ":" ++ padded 2 (secondOfDay / 60 % 60) ++ ":" ++
    padded 2 (secondOfDay % 60 + leap)

/-- The text with as many digits of the fraction as needed, in groups of three. -/
def render (time : Timestamp) : String :=
  let fraction := time.nanos % perSecond
  wholeText time ++
    (if fraction = 0 then ""
    else if fraction % 1000000 = 0 then "." ++ padded 3 (fraction / 1000000)
    else if fraction % 1000 = 0 then "." ++ padded 6 (fraction / 1000)
    else "." ++ padded 9 fraction) ++ "Z"

/-- The text with exactly six digits of the fraction. -/
def renderMicros (time : Timestamp) : String :=
  wholeText time ++ "." ++ padded 6 (time.nanos % perSecond / 1000) ++ "Z"

/-- The text without a fraction. -/
def renderSeconds (time : Timestamp) : String :=
  wholeText time ++ "Z"

end Timestamp

end VolumeAttacher
