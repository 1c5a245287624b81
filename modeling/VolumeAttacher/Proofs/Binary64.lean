import Mathlib.Algebra.Order.Field.Power
import Mathlib.Data.Rat.Cast.Order
import Mathlib.Tactic.FieldSimp
import Mathlib.Tactic.Linarith
import Mathlib.Tactic.Positivity
import Mathlib.Tactic.Ring
import VolumeAttacher.Binary64

/-!
# Rounding errors

What a binary number stands for, and how far a rounded quotient is from the exact one: at most one
part in `2 ^ 53` of it.
-/

namespace VolumeAttacher.Binary64

/-- What a number stands for. -/
def value (number : Binary64) : ℚ := number.mantissa * 2 ^ number.exponent

theorem value_nonneg (number : Binary64) : 0 ≤ number.value := by
  unfold value
  positivity

theorem quotient_pos (number : Binary64) : 0 < number.quotient.2 :=
  Nat.pow_pos (by decide)

theorem pow_toNat_div (exponent : Int) :
    (2 : ℚ) ^ exponent.toNat / 2 ^ (-exponent).toNat = 2 ^ exponent := by
  rw [← zpow_natCast, ← zpow_natCast, ← zpow_sub₀ (by norm_num)]
  congr 1
  omega

/-- A number is its exact quotient. -/
theorem quotient_eq (number : Binary64) :
    (number.quotient.1 : ℚ) / number.quotient.2 = number.value := by
  simp only [quotient, value, Nat.pow_eq, Nat.cast_mul, Nat.cast_pow, Nat.cast_ofNat]
  rw [mul_div_assoc, pow_toNat_div]

theorem le_iff (left right : Binary64) : left.le right = true ↔ left.value ≤ right.value := by
  have leftPos : (0 : ℚ) < left.quotient.2 := by exact_mod_cast left.quotient_pos
  have rightPos : (0 : ℚ) < right.quotient.2 := by exact_mod_cast right.quotient_pos
  rw [le, decide_eq_true_iff, ← quotient_eq, ← quotient_eq, div_le_div_iff₀ leftPos rightPos]
  exact_mod_cast Iff.rfl

/-- A quotient is rounded by at most one half. -/
theorem roundQuotient_bounds
    (numerator : Nat)
    {denominator : Nat}
    (positive : 0 < denominator) :
    2 * numerator ≤ (2 * roundQuotient numerator denominator + 1) * denominator ∧
      2 * roundQuotient numerator denominator * denominator ≤ 2 * numerator + denominator := by
  have split := Nat.div_add_mod numerator denominator
  have small := Nat.mod_lt numerator positive
  unfold roundQuotient
  dsimp only
  generalize numerator / denominator = quotient at *
  generalize numerator % denominator = rest at *
  subst split
  split_ifs with below above
  · constructor <;> nlinarith
  · constructor <;> nlinarith
  · have parity := Nat.mod_two_eq_zero_or_one quotient
    have tie : 2 * rest = denominator := by omega
    obtain even | odd := parity
    · rw [even]
      constructor <;> nlinarith
    · rw [odd]
      constructor <;> nlinarith

/-- A quotient is rounded by at most one half. -/
theorem roundQuotient_error
    (numerator : Nat)
    {denominator : Nat}
    (positive : 0 < denominator) :
    |(roundQuotient numerator denominator : ℚ) - numerator / denominator| ≤ 1 / 2 := by
  obtain ⟨above, below⟩ := roundQuotient_bounds numerator positive
  generalize roundQuotient numerator denominator = rounded at *
  have positive' : (0 : ℚ) < denominator := by exact_mod_cast positive
  have above' : (2 * numerator : ℚ) ≤ (2 * rounded + 1) * denominator := by exact_mod_cast above
  have below' : (2 * rounded * denominator : ℚ) ≤ 2 * numerator + denominator := by
    exact_mod_cast below
  have exact : (numerator : ℚ) / denominator * denominator = numerator :=
    div_mul_cancel₀ _ (ne_of_gt positive')
  rw [abs_le]
  constructor
  · have : (numerator : ℚ) / denominator ≤ rounded + 1 / 2 := by
      rw [div_le_iff₀ positive']
      linarith
    linarith
  · have : (rounded : ℚ) - 1 / 2 ≤ numerator / denominator := by
      rw [le_div_iff₀ positive']
      linarith
    linarith

theorem inUnitsOf_pos
    (numerator : Nat)
    {denominator : Nat}
    (positive : 0 < denominator)
    (exponent : Int) :
    0 < (inUnitsOf numerator denominator exponent).2 :=
  Nat.mul_pos positive (Nat.pow_pos (by decide))

theorem inUnitsOf_eq (numerator denominator : Nat) (exponent : Int) :
    ((inUnitsOf numerator denominator exponent).1 : ℚ) /
        (inUnitsOf numerator denominator exponent).2 =
      numerator / denominator / 2 ^ exponent := by
  simp only [inUnitsOf, Nat.pow_eq, Nat.cast_mul, Nat.cast_pow, Nat.cast_ofNat]
  rw [mul_div_mul_comm, ← pow_toNat_div exponent, div_div_eq_mul_div, mul_div_assoc]

theorem two_pow_log2_le {number : Nat} (positive : 0 < number) :
    (2 : ℚ) ^ (number.log2 : ℤ) ≤ number := by
  rw [zpow_natCast]
  exact_mod_cast Nat.log2_self_le (Nat.ne_of_gt positive)

theorem lt_two_pow_log2 (number : Nat) : (number : ℚ) < 2 ^ ((number.log2 : ℤ) + 1) := by
  have below : number < 2 ^ (number.log2 + 1) := Nat.lt_log2_self
  exact_mod_cast below

/-- A quotient is off by less than one bit from that of the greatest powers of two below its
parts. -/
theorem quotient_bounds
    {numerator denominator : Nat}
    (positive : 0 < numerator)
    (divides : 0 < denominator) :
    (2 : ℚ) ^ ((numerator.log2 : ℤ) - denominator.log2 - 1) < numerator / denominator ∧
      (numerator : ℚ) / denominator < 2 ^ ((numerator.log2 : ℤ) - denominator.log2 + 1) := by
  have above := two_pow_log2_le positive
  have divisorAbove := two_pow_log2_le divides
  have below := lt_two_pow_log2 numerator
  have divisorBelow := lt_two_pow_log2 denominator
  have divisorPos : (0 : ℚ) < denominator := by exact_mod_cast divides
  constructor
  · rw [lt_div_iff₀ divisorPos]
    calc (2 : ℚ) ^ ((numerator.log2 : ℤ) - denominator.log2 - 1) * denominator
        < 2 ^ ((numerator.log2 : ℤ) - denominator.log2 - 1) *
            2 ^ ((denominator.log2 : ℤ) + 1) := by gcongr
      _ = 2 ^ (numerator.log2 : ℤ) := by
          rw [← zpow_add₀ (by norm_num)]
          congr 1
          ring
      _ ≤ numerator := above
  · rw [div_lt_iff₀ divisorPos]
    calc (numerator : ℚ) < 2 ^ ((numerator.log2 : ℤ) + 1) := below
      _ = 2 ^ ((numerator.log2 : ℤ) - denominator.log2 + 1) * 2 ^ (denominator.log2 : ℤ) := by
          rw [← zpow_add₀ (by norm_num)]
          congr 1
          ring
      _ ≤ 2 ^ ((numerator.log2 : ℤ) - denominator.log2 + 1) * denominator := by gcongr

theorem inUnitsOf_div_lt
    (numerator : Nat)
    {denominator : Nat}
    (positive : 0 < denominator)
    (exponent : Int)
    (bound : Nat) :
    (inUnitsOf numerator denominator exponent).1 / (inUnitsOf numerator denominator exponent).2 <
        bound ↔
      (numerator : ℚ) / denominator / 2 ^ exponent < bound := by
  have unitsPos := inUnitsOf_pos numerator positive exponent
  have unitsPos' : (0 : ℚ) < (inUnitsOf numerator denominator exponent).2 := by
    exact_mod_cast unitsPos
  rw [Nat.div_lt_iff_lt_mul unitsPos, ← inUnitsOf_eq, div_lt_iff₀ unitsPos']
  exact_mod_cast Iff.rfl

/-- At its exponent, a quotient has 53 bits before the point. -/
theorem quotientExponent_bounds
    {numerator denominator : Nat}
    (positive : 0 < numerator)
    (divides : 0 < denominator) :
    (2 : ℚ) ^ 52 ≤ numerator / denominator / 2 ^ quotientExponent numerator denominator ∧
      (numerator : ℚ) / denominator / 2 ^ quotientExponent numerator denominator < 2 ^ 53 := by
  obtain ⟨above, below⟩ := quotient_bounds positive divides
  have short := inUnitsOf_div_lt numerator divides
    ((numerator.log2 : Int) - denominator.log2 - 52) (Nat.pow 2 52)
  unfold quotientExponent
  dsimp only
  generalize (numerator : ℚ) / denominator = ratio at *
  generalize (numerator.log2 : Int) - denominator.log2 = guess at *
  have half : (2 : ℚ) ^ (guess - 52) = 2 * 2 ^ (guess - 52 - 1) := by
    rw [← zpow_one_add₀ (by norm_num)]
    congr 1
    ring
  have low : (2 : ℚ) ^ (guess - 1) = 2 ^ 52 * 2 ^ (guess - 52 - 1) := by
    rw [← zpow_natCast, ← zpow_add₀ (by norm_num)]
    congr 1
    push_cast
    ring
  have high : (2 : ℚ) ^ (guess + 1) = 2 ^ 53 * 2 ^ (guess - 52) := by
    rw [← zpow_natCast, ← zpow_add₀ (by norm_num)]
    congr 1
    push_cast
    ring
  have unitPos : (0 : ℚ) < 2 ^ (guess - 52 - 1) := by positivity
  have unitPos' : (0 : ℚ) < 2 ^ (guess - 52) := by positivity
  split_ifs with isShort
  · have small := short.mp isShort
    rw [div_lt_iff₀ unitPos'] at small
    rw [le_div_iff₀ unitPos, div_lt_iff₀ unitPos]
    norm_num at small ⊢
    constructor <;> linarith
  · have large := not_lt.mp (fun small => isShort (short.mpr small))
    rw [div_lt_iff₀ unitPos']
    norm_num at large ⊢
    refine ⟨large, by linarith⟩

/-- The greatest relative error of one operation. -/
def precision : ℚ := 1 / 2 ^ 53

theorem roundQuotient_le (numerator denominator : Nat) :
    roundQuotient numerator denominator ≤ numerator / denominator + 1 := by
  have parity := Nat.mod_two_eq_zero_or_one (numerator / denominator)
  unfold roundQuotient
  dsimp only
  split_ifs <;> omega

/-- A rounded quotient stands for the rounded number of units of its exponent, also where the
rounding carries over to the next exponent. -/
theorem value_ofQuotient
    {numerator denominator : Nat}
    (positive : 0 < numerator)
    (divides : 0 < denominator) :
    (ofQuotient numerator denominator).value =
      roundQuotient
          (inUnitsOf numerator denominator (quotientExponent numerator denominator)).1
          (inUnitsOf numerator denominator (quotientExponent numerator denominator)).2 *
        2 ^ quotientExponent numerator denominator := by
  have small := (inUnitsOf_div_lt numerator divides (quotientExponent numerator denominator)
    (2 ^ 53)).mpr (by exact_mod_cast (quotientExponent_bounds positive divides).2)
  have atMost := roundQuotient_le
    (inUnitsOf numerator denominator (quotientExponent numerator denominator)).1
    (inUnitsOf numerator denominator (quotientExponent numerator denominator)).2
  unfold ofQuotient
  rw [if_neg (Nat.ne_of_gt positive)]
  dsimp only
  split_ifs with fits
  · rfl
  · have carries : roundQuotient
        (inUnitsOf numerator denominator (quotientExponent numerator denominator)).1
        (inUnitsOf numerator denominator (quotientExponent numerator denominator)).2 = 2 ^ 53 := by
      rw [Nat.pow_eq] at fits
      omega
    rw [carries, value, zpow_add_one₀ (by norm_num)]
    norm_num
    ring

/-- A rounded quotient is off by at most one part in `2 ^ 53`. -/
theorem ofQuotient_error
    (numerator : Nat)
    {denominator : Nat}
    (divides : 0 < denominator) :
    |(ofQuotient numerator denominator).value - numerator / denominator| ≤
      numerator / denominator * precision := by
  obtain rfl | positive := Nat.eq_zero_or_pos numerator
  · simp [ofQuotient, value]
  have exact := inUnitsOf_eq numerator denominator (quotientExponent numerator denominator)
  have unitsPos := inUnitsOf_pos numerator divides (quotientExponent numerator denominator)
  have large := (quotientExponent_bounds positive divides).1
  have rounded := roundQuotient_error
    (inUnitsOf numerator denominator (quotientExponent numerator denominator)).1 unitsPos
  rw [exact] at rounded
  rw [value_ofQuotient positive divides]
  generalize (numerator : ℚ) / denominator = ratio at *
  generalize quotientExponent numerator denominator = exponent at *
  generalize (roundQuotient _ _ : ℚ) = mantissa at *
  have unitPos : (0 : ℚ) < 2 ^ exponent := by positivity
  calc |mantissa * 2 ^ exponent - ratio|
      = |(mantissa - ratio / 2 ^ exponent) * 2 ^ exponent| := by
        rw [sub_mul, div_mul_cancel₀ _ (ne_of_gt unitPos)]
    _ = |mantissa - ratio / 2 ^ exponent| * 2 ^ exponent := by rw [abs_mul, abs_of_pos unitPos]
    _ ≤ 1 / 2 * 2 ^ exponent := by gcongr
    _ = 2 ^ 52 * precision * 2 ^ exponent := by norm_num [precision]
    _ ≤ ratio / 2 ^ exponent * precision * 2 ^ exponent := by
        have precise : 0 ≤ precision := by norm_num [precision]
        gcongr
    _ = ratio * precision := by field_simp

/-- A number is within one rounding of an exact one. -/
def IsRounded (computed : Binary64) (exact : ℚ) : Prop :=
  exact * (1 - precision) ≤ computed.value ∧ computed.value ≤ exact * (1 + precision)

theorem isRounded_ofQuotient
    (numerator : Nat)
    {denominator : Nat}
    (divides : 0 < denominator) :
    (ofQuotient numerator denominator).IsRounded (numerator / denominator) := by
  have error := ofQuotient_error numerator divides
  rw [abs_le] at error
  constructor <;> linarith

theorem isRounded_ofNat (number : Nat) : (ofNat number).IsRounded number := by
  simpa [ofNat] using isRounded_ofQuotient number (by decide : 0 < 1)

theorem isRounded_add (left right : Binary64) :
    (left.add right).IsRounded (left.value + right.value) := by
  have leftPos : (left.quotient.2 : ℚ) ≠ 0 := by exact_mod_cast (Nat.ne_of_gt left.quotient_pos)
  have rightPos : (right.quotient.2 : ℚ) ≠ 0 := by
    exact_mod_cast (Nat.ne_of_gt right.quotient_pos)
  have rounded := isRounded_ofQuotient
    (left.quotient.1 * right.quotient.2 + right.quotient.1 * left.quotient.2)
    (Nat.mul_pos left.quotient_pos right.quotient_pos)
  rw [← quotient_eq, ← quotient_eq, div_add_div _ _ leftPos rightPos]
  push_cast at rounded
  rwa [mul_comm (right.quotient.1 : ℚ)] at rounded

theorem isRounded_mul (left right : Binary64) :
    (left.mul right).IsRounded (left.value * right.value) := by
  have rounded := isRounded_ofQuotient (left.quotient.1 * right.quotient.1)
    (Nat.mul_pos left.quotient_pos right.quotient_pos)
  rw [← quotient_eq, ← quotient_eq, div_mul_div_comm]
  push_cast at rounded
  exact rounded

end VolumeAttacher.Binary64
