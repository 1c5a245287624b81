import VolumeAttacher.Binary64
import VolumeAttacher.Duration

/-!
# Durations in seconds

A duration as a binary number of seconds, for comparisons with other such numbers and for sums.
-/

namespace VolumeAttacher

/-- A duration in seconds, as the sum of its whole seconds and the fraction, each rounded. -/
def Duration.inSeconds (duration : Duration) : Binary64 :=
  (Binary64.ofNat duration.seconds).add
    (Binary64.ofQuotient duration.subsecond Duration.perSecond)

end VolumeAttacher
