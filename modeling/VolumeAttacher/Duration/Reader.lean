import VolumeAttacher.Duration
import VolumeAttacher.Text.Blank
import VolumeAttacher.Text.Quoted

/-!
# Reading durations

A duration is written as numbers with units, such as `1h 2m 3.5s`. Blanks may stand between the
parts and inside a number. Months have 30.44 days and years 365.25. Every intermediate number must
fit in 64 bits, and a fraction must come out in whole nanoseconds, or in whole seconds from hours
upwards.
-/

namespace VolumeAttacher
namespace Duration

/-- Why a text is no duration. Offsets count octets from the start of the text. -/
inductive Problem where
  | empty
  | invalidCharacter (offset : Nat)
  | numberExpected (offset : Nat)
  | unitNeeded (value : Nat)
  | unknownUnit (name : String)
  | notRepresentable
  deriving DecidableEq

def Problem.message : Problem → String
  | .empty => "value was empty"
  | .invalidCharacter offset => "invalid character at " ++ toString offset
  | .numberExpected offset => "expected number at " ++ toString offset
  | .unitNeeded value =>
    "time unit needed, for example " ++ toString value ++ "sec or " ++ toString value ++ "ms"
  | .unknownUnit name =>
    "unknown time unit " ++ Text.quoted name ++ ", supported units: ns, us/µs, ms, sec, min, " ++
      "hours, days, weeks, months, years (and few variations)"
  | .notRepresentable =>
    "number is too large or cannot be represented without a lack of precision " ++
      "(values below 1ns are not supported)"

/-- A unit of time. -/
inductive TimeUnit where
  | nanosecond | microsecond | millisecond | second | minute
  | hour | day | week | month | year
  deriving DecidableEq

/-- The unit that a name stands for. -/
def TimeUnit.ofName? (name : String) : Option TimeUnit :=
  if name ∈ ["nanos", "nsec", "ns"] then some .nanosecond
  else if name ∈ ["usec", "us", "µs"] then some .microsecond
  else if name ∈ ["millis", "msec", "ms"] then some .millisecond
  else if name ∈ ["seconds", "second", "secs", "sec", "s"] then some .second
  else if name ∈ ["minutes", "minute", "min", "mins", "m"] then some .minute
  else if name ∈ ["hours", "hour", "hrs", "hr", "h"] then some .hour
  else if name ∈ ["days", "day", "d"] then some .day
  else if name ∈ ["weeks", "week", "wks", "wk", "w"] then some .week
  else if name ∈ ["months", "month", "M"] then some .month
  else if name ∈ ["years", "year", "yrs", "yr", "y"] then some .year
  else none

/-- What a multiple of a unit is counted in, and how many of these make one unit. -/
def TimeUnit.scale : TimeUnit → Nat × Nat
  | .nanosecond => (1, 1)
  | .microsecond => (1, 1000)
  | .millisecond => (1, 1000000)
  | .second => (perSecond, 1)
  | .minute => (perSecond, 60)
  | .hour => (perSecond, 3600)
  | .day => (perSecond, 86400)
  | .week => (perSecond, 604800)
  | .month => (perSecond, 2630016)
  | .year => (perSecond, 31557600)

/-- What a fraction of a unit is counted in, and how many of these make one unit. Nanoseconds have
no fractions. -/
def TimeUnit.fractionScale? : TimeUnit → Option (Nat × Nat)
  | .nanosecond => none
  | .second => some (1, 1000000000)
  | .minute => some (1, 60000000000)
  | unit => some unit.scale

/-- The digits after a point, as a fraction. -/
structure Fraction where
  numerator : Nat
  denominator : Nat
  deriving DecidableEq

/-- A number that fits in 64 bits. -/
def bounded (value : Nat) : Except Problem Nat :=
  if value < UInt64.size then .ok value else .error .notRepresentable

/-- A number with one more digit. -/
def appendDigit (value : Nat) (digit : Char) : Except Problem Nat :=
  bounded (value * 10 + (digit.toNat - 48))

/-- A duration increased by `count` times `step` nanoseconds. -/
def extend (total count step : Nat) : Except Problem Nat := do
  let count ← bounded count
  if step = 1 then
    let _ ← bounded (total % perSecond + count)
  let _ ← bounded ((total + count * step) / perSecond)
  return total + count * step

/-- A duration increased by a number with a unit. -/
def addPart
    (total value : Nat)
    (fraction : Option Fraction)
    (name : List Char) : Except Problem Nat := do
  if name.isEmpty then throw (.unitNeeded value)
  let some unit := TimeUnit.ofName? (String.ofList name)
    | throw (.unknownUnit (String.ofList name))
  let total ← extend total (value * unit.scale.2) unit.scale.1
  match fraction with
  | none => return total
  | some part =>
    let some (step, count) := unit.fractionScale? | throw .notRepresentable
    let scaled ← bounded (part.numerator * count)
    if scaled % part.denominator = 0 then extend total (scaled / part.denominator) step
    else throw .notRepresentable

/-- Where a reader stands. -/
inductive Stage where
  /-- Before a number; a character that starts none is reported at `position`. -/
  | between (position : Nat)
  /-- Inside the whole part of a number. -/
  | whole (value : Nat)
  /-- After the point of a number; a character that cannot follow is reported at `position`. -/
  | part (value : Nat) (fraction : Fraction) (position : Nat)
  /-- Inside the name of a unit, its characters in reverse order. -/
  | unit (value : Nat) (fraction : Option Fraction) (name : List Char)

/-- A letter that the name of a unit may hold. -/
def isUnitLetter (character : Char) : Bool :=
  ('a' ≤ character && character ≤ 'z') || ('A' ≤ character && character ≤ 'Z') || character = 'µ'

/-- Reading goes on at `offset` from `stage`, with `total` nanoseconds read so far. -/
def readFrom (total offset : Nat) : Stage → List Char → Except Problem Nat
  | .between _, [] => return total
  | .whole value, [] => addPart total value none []
  | .part value fraction position, [] =>
    if fraction.denominator = 1 then throw (.invalidCharacter position)
    else addPart total value (some fraction) []
  | .unit value fraction name, [] => addPart total value fraction name.reverse
  | .between position, character :: rest =>
    let next := offset + character.utf8Size
    if character.isDigit then readFrom total next (.whole (character.toNat - 48)) rest
    else if Text.isBlank character then readFrom total next (.between position) rest
    else throw (.numberExpected position)
  | .whole value, character :: rest =>
    let next := offset + character.utf8Size
    if character.isDigit then do
      readFrom total next (.whole (← appendDigit value character)) rest
    else if Text.isBlank character then readFrom total next (.whole value) rest
    else if isUnitLetter character then readFrom total next (.unit value none [character]) rest
    else if character = '.' then readFrom total next (.part value ⟨0, 1⟩ offset) rest
    else throw (.invalidCharacter offset)
  | .part value fraction position, character :: rest =>
    let next := offset + character.utf8Size
    if character.isDigit then do
      let denominator ← bounded (fraction.denominator * 10)
      let numerator ← appendDigit fraction.numerator character
      readFrom total next (.part value ⟨numerator, denominator⟩ next) rest
    else if Text.isBlank character then readFrom total next (.part value fraction next) rest
    else if isUnitLetter character then
      if fraction.denominator = 1 then throw (.invalidCharacter position)
      else readFrom total next (.unit value (some fraction) [character]) rest
    else throw (.invalidCharacter position)
  | .unit value fraction name, character :: rest =>
    let next := offset + character.utf8Size
    if character.isDigit then do
      let total ← addPart total value fraction name.reverse
      readFrom total next (.whole (character.toNat - 48)) rest
    else if Text.isBlank character then do
      let total ← addPart total value fraction name.reverse
      readFrom total next (.between next) rest
    else if isUnitLetter character then
      readFrom total next (.unit value fraction (character :: name)) rest
    else throw (.invalidCharacter offset)

/-- The duration that a text without blanks at its ends stands for; a bare `0` needs no unit. -/
def ofTrimmed (text : List Char) : Except Problem Duration :=
  if text = ['0'] then .ok ⟨0⟩
  else if text.isEmpty then .error .empty
  else (readFrom 0 0 (.between 0) text).map Duration.mk

/-- The duration that a text stands for. -/
def ofText (text : String) : Except Problem Duration :=
  ofTrimmed (Text.trim text.toList)

end Duration

end VolumeAttacher
