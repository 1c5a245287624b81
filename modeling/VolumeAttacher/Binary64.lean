/-!
# Binary floating point

Nonnegative numbers of 53 significant bits, each operation rounded once to the nearest, a tie to the
even neighbour. Exponents are unbounded, so nothing overflows and nothing is subnormal.
-/

namespace VolumeAttacher

/-- The number `mantissa * 2 ^ exponent`. A number other than zero has a mantissa of 53 bits. -/
structure Binary64 where
  mantissa : Nat
  exponent : Int
  deriving DecidableEq, Inhabited

namespace Binary64

/-- The whole number nearest to a quotient, a tie going to the even one. -/
def roundQuotient (numerator denominator : Nat) : Nat :=
  let quotient := numerator / denominator
  let twice := 2 * (numerator % denominator)
  if twice < denominator then quotient
  else if denominator < twice then quotient + 1
  else quotient + quotient % 2

/-- A quotient in units of `2 ^ exponent`, as a pair whose quotient it is. -/
def inUnitsOf (numerator denominator : Nat) (exponent : Int) : Nat × Nat :=
  (numerator * Nat.pow 2 (-exponent).toNat, denominator * Nat.pow 2 exponent.toNat)

/-- The exponent at which a quotient has 53 bits before the point. -/
def quotientExponent (numerator denominator : Nat) : Int :=
  let guess : Int := (Nat.log2 numerator : Int) - Nat.log2 denominator - 52
  let scaled := inUnitsOf numerator denominator guess
  if scaled.1 / scaled.2 < Nat.pow 2 52 then guess - 1 else guess

/-- The number nearest to a quotient. -/
def ofQuotient (numerator denominator : Nat) : Binary64 :=
  if numerator = 0 then ⟨0, 0⟩
  else
    let exponent := quotientExponent numerator denominator
    let scaled := inUnitsOf numerator denominator exponent
    let mantissa := roundQuotient scaled.1 scaled.2
    if mantissa < Nat.pow 2 53 then ⟨mantissa, exponent⟩ else ⟨Nat.pow 2 52, exponent + 1⟩

/-- The number nearest to a whole number. -/
def ofNat (value : Nat) : Binary64 := ofQuotient value 1

/-- A number as an exact quotient. -/
def quotient (number : Binary64) : Nat × Nat :=
  (number.mantissa * Nat.pow 2 number.exponent.toNat, Nat.pow 2 (-number.exponent).toNat)

def add (left right : Binary64) : Binary64 :=
  let a := left.quotient
  let b := right.quotient
  ofQuotient (a.1 * b.2 + b.1 * a.2) (a.2 * b.2)

def mul (left right : Binary64) : Binary64 :=
  let a := left.quotient
  let b := right.quotient
  ofQuotient (a.1 * b.1) (a.2 * b.2)

/-- Whether a number is at most another. -/
def le (left right : Binary64) : Bool :=
  let a := left.quotient
  let b := right.quotient
  a.1 * b.2 ≤ b.1 * a.2

/-- The decimals of one length next to a number: how many units of `10 ^ power` it holds, rounded
down. -/
def unitsBelow (number : Binary64) (power : Int) : Nat :=
  let exact := number.quotient
  (exact.1 * Nat.pow 10 (-power).toNat) / (exact.2 * Nat.pow 10 power.toNat)

/-- The width of the gap to the next number below, in quarters of `2 ^ exponent`. -/
def gapBelow (number : Binary64) : Nat := if number.mantissa = Nat.pow 2 52 then 2 else 4

/-- Whether the decimal `units * 10 ^ power` reads back as `number`: it lies between the midpoints
to the neighbours, which count exactly if the mantissa is even. -/
def readsBack (number : Binary64) (units : Nat) (power : Int) : Bool :=
  let decimal := units * Nat.pow 10 power.toNat * Nat.pow 2 (-(number.exponent - 3)).toNat
  let scale := Nat.pow 10 (-power).toNat * Nat.pow 2 (number.exponent - 3).toNat
  let low := (8 * number.mantissa - number.gapBelow) * scale
  let high := (8 * number.mantissa + 4) * scale
  if number.mantissa % 2 = 0 then low ≤ decimal && decimal ≤ high
  else low < decimal && decimal < high

/-- Whether a number is nearer to `units + 1` units of `10 ^ power` than to `units`. -/
def nearerAbove (number : Binary64) (units : Nat) (power : Int) : Bool :=
  let exact := number.quotient
  let value := 2 * exact.1 * Nat.pow 10 (-power).toNat
  let middle := (2 * units + 1) * exact.2 * Nat.pow 10 power.toNat
  middle < value || (middle = value && units % 2 = 1)

/-- The decimal of the fewest digits that reads back, looking from `power` downwards for `fuel`
steps. -/
def shortestFrom (number : Binary64) (power : Int) : Nat → Nat × Int
  | 0 => (number.unitsBelow power, power)
  | fuel + 1 =>
    let below := number.unitsBelow power
    let lower := below != 0 && number.readsBack below power
    let upper := number.readsBack (below + 1) power
    if lower && (!upper || !number.nearerAbove below power) then (below, power)
    else if upper then (below + 1, power)
    else shortestFrom number (power - 1) fuel

/-- A power of ten above a number. -/
def powerAbove (number : Binary64) : Int :=
  ((number.exponent + 53) * 30103) / 100000 + 2

/-- The decimal of the fewest digits that reads back, as units of a power of ten. -/
def shortest (number : Binary64) : Nat × Int :=
  shortestFrom number number.powerAbove 24

/-- The shortest decimal that reads back, in positional notation. -/
def render (number : Binary64) : String :=
  if number.mantissa = 0 then "0"
  else
    let (units, power) := number.shortest
    let digits := Nat.toDigits 10 units
    if 0 ≤ power then String.ofList (digits ++ List.replicate power.toNat '0')
    else
      let places := (-power).toNat
      let padded := List.replicate (places + 1 - digits.length) '0' ++ digits
      let whole := padded.take (padded.length - places)
      String.ofList (whole ++ '.' :: padded.drop (padded.length - places))

end Binary64

end VolumeAttacher
