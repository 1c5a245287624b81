import VolumeAttacher.Duration.Seconds
import VolumeAttacher.Proofs.Binary64

/-!
# How exact a number of seconds is

A duration in seconds is off by at most two roundings.
-/

namespace VolumeAttacher.Duration

open Binary64 (precision)

/-- The exact number of seconds. -/
def exactSeconds (duration : Duration) : ℚ := duration.nanos / perSecond

theorem exactSeconds_nonneg (duration : Duration) : 0 ≤ duration.exactSeconds := by
  unfold exactSeconds
  positivity

theorem exactSeconds_eq (duration : Duration) :
    duration.exactSeconds = duration.seconds + (duration.subsecond : ℚ) / perSecond := by
  have split : duration.seconds * perSecond + duration.subsecond = duration.nanos :=
    Nat.div_add_mod' duration.nanos perSecond
  have positive : (perSecond : ℚ) ≠ 0 := by norm_num [perSecond]
  rw [exactSeconds, ← split]
  push_cast
  field_simp

theorem exactSeconds_le_iff (left right : Duration) :
    left.exactSeconds ≤ right.exactSeconds ↔ left.nanos ≤ right.nanos := by
  have positive : (0 : ℚ) < perSecond := by norm_num [perSecond]
  rw [exactSeconds, exactSeconds, div_le_div_iff_of_pos_right positive]
  exact_mod_cast Iff.rfl

theorem inSeconds_bounds (duration : Duration) :
    duration.exactSeconds * (1 - precision) ^ 2 ≤ duration.inSeconds.value ∧
      duration.inSeconds.value ≤ duration.exactSeconds * (1 + precision) ^ 2 := by
  obtain ⟨wholeAbove, wholeBelow⟩ := Binary64.isRounded_ofNat duration.seconds
  obtain ⟨restAbove, restBelow⟩ :=
    Binary64.isRounded_ofQuotient duration.subsecond (by decide : 0 < perSecond)
  obtain ⟨sumAbove, sumBelow⟩ := Binary64.isRounded_add
    (.ofNat duration.seconds) (.ofQuotient duration.subsecond perSecond)
  have small : precision < 1 := by norm_num [precision]
  have positive : 0 < precision := by norm_num [precision]
  rw [exactSeconds_eq, inSeconds]
  constructor
  · refine le_trans ?_ sumAbove
    rw [pow_two, ← mul_assoc]
    gcongr
    linarith
  · refine sumBelow.trans ?_
    rw [pow_two, ← mul_assoc]
    gcongr
    linarith

end VolumeAttacher.Duration
