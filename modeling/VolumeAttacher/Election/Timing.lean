import VolumeAttacher.Duration.Seconds
import VolumeAttacher.Fault

/-!
# Timing of an election

How long a record of the lock is valid, how long its holder tries to renew it, how often candidates
try, and how long work may take to stop.
-/

namespace VolumeAttacher

/-- The timing of an election. -/
structure Timing where
  /-- How long a record that is not renewed is valid for other candidates. -/
  lease : Duration
  /-- How long the holder tries to renew before it gives up. -/
  renew : Duration
  /-- The time between attempts. -/
  retry : Duration
  /-- How long the work may take to stop. -/
  grace : Duration
  deriving DecidableEq

namespace Timing

/-- The timing where nothing is set. -/
def standard : Timing := ⟨.ofSeconds 15, .ofSeconds 10, .ofSeconds 5, .ofSeconds 10⟩

instance : Inhabited Timing := ⟨standard⟩

/-- How many times the time between attempts the renewal must exceed: one and a fifth. -/
def margin : Binary64 := Binary64.ofQuotient 12 10

/-- Whether there is no time for a second attempt to renew. -/
def isRenewTooShort (timing : Timing) : Bool :=
  timing.renew.inSeconds.le (margin.mul timing.retry.inSeconds)

/-- The greatest number of seconds that a record can hold. -/
def greatestSeconds : Nat := 2147483647

/-- Whether the lease can be written as a positive number of seconds in a record. -/
def isLeaseOutOfRange (timing : Timing) : Bool :=
  timing.lease.seconds = 0 || greatestSeconds < timing.lease.seconds

/-- Accept only timings that an election can run with. -/
def check (timing : Timing) : Except SettingsProblem Unit :=
  if timing.retry.isZero then .error .retryPeriodZero
  else if timing.lease.nanos ≤ timing.renew.nanos then
    .error (.leaseTooShort timing.lease timing.renew)
  else if timing.isRenewTooShort then .error (.renewTooShort timing.renew timing.retry)
  else if timing.isLeaseOutOfRange then .error (.leaseOutOfRange timing.lease)
  else .ok ()

end Timing

end VolumeAttacher
