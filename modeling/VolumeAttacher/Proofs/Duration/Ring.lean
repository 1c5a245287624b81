import VolumeAttacher.Duration

/-!
# When timers ring

A timer rings at the first whole millisecond that is not before the time it was set for. So it is
never early, less than a millisecond late, and on time where it was set for a whole millisecond.
-/

namespace VolumeAttacher.Duration

variable {time later millis : Nat}

theorem dvd_ring (time : Nat) : perMilli ∣ ring time := by
  simp only [ring, perMilli]
  omega

theorem le_ring (time : Nat) : time ≤ ring time := by
  simp only [ring, perMilli]
  omega

theorem ring_lt (time : Nat) : ring time < time + perMilli := by
  simp only [ring, perMilli]
  omega

/-- A timer that is set for later does not ring before now. -/
theorem le_ring_add (time rest : Nat) : time ≤ ring (time + rest) :=
  Nat.le_trans (Nat.le_add_right ..) (le_ring _)

/-- A timer rings before any whole millisecond that the time it was set for does not pass. -/
theorem ring_le_of_dvd (whole : perMilli ∣ millis) (before : time ≤ millis) :
    ring time ≤ millis := by
  simp only [ring, perMilli] at whole ⊢
  omega

theorem ring_eq_of_dvd (whole : perMilli ∣ time) : ring time = time :=
  Nat.le_antisymm (ring_le_of_dvd whole (Nat.le_refl _)) (le_ring time)

theorem ring_mono (ordered : time ≤ later) : ring time ≤ ring later :=
  ring_le_of_dvd (dvd_ring later) (Nat.le_trans ordered (le_ring later))

/-- A timer may ring almost a millisecond late, however long it is set for. -/
theorem exists_latest_ring (rest : Nat) :
    ∃ time, ring (time + rest) = time + rest + (perMilli - 1) :=
  ⟨perMilli - rest % perMilli + 1, by simp only [ring, perMilli]; omega⟩

theorem ring_add_of_dvd (whole : perMilli ∣ millis) (time : Nat) :
    ring (millis + time) = millis + ring time := by
  simp only [ring, perMilli] at whole ⊢
  omega

end VolumeAttacher.Duration
