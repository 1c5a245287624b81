/-!
# Durations

A length of time in whole nanoseconds, and the text in which messages show one.
-/

namespace VolumeAttacher

/-- A length of time. -/
structure Duration where
  nanos : Nat
  deriving DecidableEq, Inhabited

namespace Duration

/-- Nanoseconds in a second. -/
def perSecond : Nat := 1000000000

/-- Nanoseconds in a millisecond. -/
def perMilli : Nat := 1000000

/-- The bound that the seconds of every duration in the settings stay below. -/
def secondsBound : Nat := UInt64.size

def ofSeconds (count : Nat) : Duration := ⟨count * perSecond⟩

def ofMillis (count : Nat) : Duration := ⟨count * perMilli⟩

/-- Whole seconds. -/
def seconds (duration : Duration) : Nat := duration.nanos / perSecond

/-- Nanoseconds past the whole seconds. -/
def subsecond (duration : Duration) : Nat := duration.nanos % perSecond

def isZero (duration : Duration) : Bool := duration.nanos = 0

/-- The milliseconds after which a timer set for this duration has surely passed it. -/
def millisUp (duration : Duration) : Nat := (duration.nanos + perMilli - 1) / perMilli

/-- The time at which a timer rings that was set for a time: the next whole millisecond. -/
def ring (time : Nat) : Nat := time + (perMilli - time % perMilli) % perMilli

/-- The digits after the point of a fraction out of `10 ^ places`, without trailing zeros and with
the point unless nothing is left. -/
def fractionText (places fraction : Nat) : String :=
  let digits := Nat.toDigits 10 fraction
  let padded := List.replicate (places - digits.length) '0' ++ digits
  match (padded.reverse.dropWhile (· = '0')).reverse with
  | [] => ""
  | kept => String.ofList ('.' :: kept)

/-- A count of units and a fraction of one, out of `10 ^ places`. -/
def inUnits (nanos places : Nat) (unit : String) : String :=
  let scale := Nat.pow 10 places
  toString (nanos / scale) ++
    (if nanos % scale = 0 then "" else fractionText places (nanos % scale)) ++ unit

/-- The text of a duration, in the largest of seconds, milliseconds, microseconds and nanoseconds of
which it holds at least one. -/
def render (duration : Duration) : String :=
  if perSecond ≤ duration.nanos then inUnits duration.nanos 9 "s"
  else if perMilli ≤ duration.nanos then inUnits duration.nanos 6 "ms"
  else if 1000 ≤ duration.nanos then inUnits duration.nanos 3 "µs"
  else inUnits duration.nanos 0 "ns"

end Duration

end VolumeAttacher
