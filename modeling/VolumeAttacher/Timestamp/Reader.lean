import VolumeAttacher.Timestamp
import VolumeAttacher.Text.Blank

/-!
# Reading points in time

RFC 3339 read leniently: numbers may be shorter than their width, blanks may stand around the
separators, `t` or a blank may stand for `T`, and `z`, `UTC` or an offset of hours and minutes with
or without a colon for the zone.
-/

namespace VolumeAttacher
namespace Timestamp

/-- What is read, and the rest of the text. -/
abbrev Reader (α : Type) := List Char → Option (α × List Char)

/-- Between one and `width` digits. -/
def readNumber (width : Nat) : Reader Nat := fun text =>
  let digits := (text.take width).takeWhile Char.isDigit
  if digits.isEmpty then none
  else some (Nat.ofDigitChars 10 digits 0, text.drop digits.length)

/-- A number after any blanks. -/
def readField (width : Nat) : Reader Nat := fun text =>
  readNumber width (Text.trimStart text)

/-- A given character. -/
def readMark (mark : Char) : List Char → Option (List Char)
  | [] => none
  | first :: rest => if first = mark then some rest else none

/-- A given character after any blanks. -/
def readSeparator (mark : Char) (text : List Char) : Option (List Char) :=
  readMark mark (Text.trimStart text)

/-- A year: up to four digits, or any number of them after a sign. -/
def readYear : Reader Int := fun text =>
  match Text.trimStart text with
  | '-' :: rest => do
    let (value, rest) ← readNumber rest.length rest
    return (-(value : Int), rest)
  | '+' :: rest => do
    let (value, rest) ← readNumber rest.length rest
    return ((value : Int), rest)
  | rest => do
    let (value, rest) ← readNumber 4 rest
    return ((value : Int), rest)

/-- A fraction of a second in nanoseconds, if there is a point; digits past the ninth are dropped. -/
def readFraction : Reader Nat
  | '.' :: rest => do
    let digits := (rest.take 9).takeWhile Char.isDigit
    if digits.isEmpty then none
    else
      let value := Nat.ofDigitChars 10 digits 0 * Nat.pow 10 (9 - digits.length)
      some (value, (rest.drop digits.length).dropWhile Char.isDigit)
  | text => some (0, text)

/-- Two digits. -/
def readPair : Reader Nat
  | tens :: ones :: rest =>
    if tens.isDigit && ones.isDigit then
      some ((tens.toNat - 48) * 10 + (ones.toNat - 48), rest)
    else none
  | _ => none

/-- Hours and minutes east of universal time, in seconds. -/
def readOffset (text : List Char) : Option (Nat × List Char) := do
  let (hours, rest) ← readPair text
  let rest := rest.dropWhile fun character => character = ':' || Text.isBlank character
  let (minutes, rest) ← readPair rest
  if 60 ≤ minutes then none else some (hours * 3600 + minutes * 60, rest)

/-- The zone, as seconds east of universal time. -/
def readZone : Reader Int
  | 'Z' :: rest => some (0, rest)
  | 'z' :: rest => some (0, rest)
  | '+' :: rest => (readOffset rest).map fun (value, rest) => ((value : Int), rest)
  | '-' :: rest => (readOffset rest).map fun (value, rest) => (-(value : Int), rest)
  | '−' :: rest => (readOffset rest).map fun (value, rest) => (-(value : Int), rest)
  | text =>
    if (text.take 3).map Char.toUpper = ['U', 'T', 'C'] then some (0, text.drop 3) else none

/-- The time of a date, a time of day and an offset, if the calendar and the clock have them. -/
def ofParts?
    (date : Date)
    (hour minute second fraction : Nat)
    (offset : Int) : Option Timestamp :=
  if 1 ≤ date.month && date.month ≤ 12 && 1 ≤ date.day &&
      date.day ≤ daysInMonth date.year date.month &&
      -262143 ≤ date.year && date.year ≤ 262142 &&
      hour < 24 && minute < 60 && second ≤ 60 && -86400 < offset && offset < 86400 then
    let clock := date.dayNumber * 86400 + (hour * 3600 + minute * 60 + min second 59 : Nat)
    some ⟨clock - offset, if second = 60 then perSecond + fraction else fraction⟩
  else none

/-- The point in time that a text stands for. -/
def ofText? (text : String) : Option Timestamp := do
  let (year, rest) ← readYear text.toList
  let rest ← readSeparator '-' rest
  let (month, rest) ← readField 2 rest
  let rest ← readSeparator '-' rest
  let (day, rest) ← readField 2 rest
  let rest ← match rest with
    | 'T' :: rest | 't' :: rest | ' ' :: rest => some rest
    | _ => none
  let (hour, rest) ← readField 2 rest
  let rest ← readSeparator ':' rest
  let (minute, rest) ← readField 2 rest
  let rest ← readSeparator ':' rest
  let (second, rest) ← readField 2 rest
  let (fraction, rest) ← readFraction rest
  let (offset, rest) ← readZone (Text.trimStart rest)
  if rest.isEmpty then ofParts? ⟨year, month, day⟩ hour minute second fraction offset else none

end Timestamp

end VolumeAttacher
