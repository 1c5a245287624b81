import VolumeAttacher.Proofs.Election.Turn

/-!
# Moves between phases

What an event does to the phase of a candidate, told by whether it ends an attempt and how. From it
follows when a candidate that works wakes up and gives up, counted from its last success, and how
many attempts may fail before it does where the lock answers at once.
-/

namespace VolumeAttacher

namespace Timing

/-- The time from one attempt to the next where the lock answers at once: timers count whole
milliseconds. -/
def pace (timing : Timing) : Nat := Duration.ring timing.retry.nanos

/-- The attempts of a renewal keep their pace for less than this time: there is another one as long
as the rest before it, as it is set, ends within the time for the renewal. -/
def stamina (timing : Timing) : Nat := timing.renew.nanos + (timing.pace - timing.retry.nanos)

theorem retry_le_pace (timing : Timing) : timing.retry.nanos ≤ timing.pace :=
  Duration.le_ring _

/-- A timer that is set for a rest at a whole millisecond rings after a pace. -/
theorem ring_add_retry
    {millis : Nat}
    (whole : Duration.perMilli ∣ millis)
    (timing : Timing) :
    Duration.ring (millis + timing.retry.nanos) = millis + timing.pace :=
  Duration.ring_add_of_dvd whole _

/-- An attempt that leaves time for another one is followed by one that keeps the pace up. -/
theorem lt_stamina_of_early
    {timing : Timing}
    {count : Nat}
    (early : count * timing.pace + timing.retry.nanos < timing.renew.nanos) :
    (count + 1) * timing.pace < timing.stamina := by
  have atLeast := timing.retry_le_pace
  rw [Nat.add_mul, Nat.one_mul, stamina]
  omega

end Timing

namespace Seat

/-- An event changes what a candidate is doing as its candidacy says. -/
theorem after_candidacy
    (candidate : Candidate)
    (now : Moment)
    (event : ElectionEvent)
    (seat : Seat) :
    (seat.after candidate now event).candidacy = (seat.candidacy.step candidate now event).1 := by
  have kept (actions : List ElectionAction) (seat : Seat) :
      (actions.foldl act seat).candidacy = seat.candidacy := by
    induction actions generalizing seat with
    | nil => rfl
    | cons action actions hypothesis =>
      rw [List.foldl_cons, hypothesis]
      cases action <;> rfl
  exact kept ..

end Seat

/-- Whether an event ends an attempt to get or to renew the lock, and whether the attempt succeeds
then. -/
def Candidacy.verdict?
    (candidate : Candidate)
    (now : Moment)
    (candidacy : Candidacy)
    (event : ElectionEvent) : Option Bool :=
  match candidacy.phase, event with
  | .acquiring attempt, .reply reply | .renewing attempt _, .reply reply =>
    match (attempt.answer candidate candidacy.observed now reply).2 with
    | .ended success => some success
    | .ask _ _ | .overflow => none
  | .renewing _ deadline, .tick => if Duration.ring deadline ≤ now.instant then some false else none
  | _, _ => none

namespace Phase

/-- The candidate stops its work because it lost the lock. -/
def hasLost : Phase → Bool
  | .stopping .lost _ => true
  | _ => false

/-- How a candidate goes on from one phase to the next, by what became of its attempt. -/
inductive Move (timing : Timing) (now : Nat) : Phase → Option Bool → Phase → Prop
  /-- Nothing happens to the phase. -/
  | stays {phase} : Move timing now phase none phase
  /-- The lock was got or renewed. -/
  | secures {phase} :
    Move timing now phase (some true) (.resting (now + timing.retry.nanos))
  /-- A renewal begins. -/
  | renews {wake attempt} (due : Duration.ring wake ≤ now) :
    Move timing now (.resting wake) none (.renewing attempt (now + timing.renew.nanos))
  /-- A renewal is tried once more. -/
  | retries {wake deadline attempt} (due : Duration.ring wake ≤ now) :
    Move timing now (.retrying wake deadline) none (.renewing attempt deadline)
  /-- An attempt to renew the lock goes on. -/
  | asks {attempt attempt' deadline} :
    Move timing now (.renewing attempt deadline) none (.renewing attempt' deadline)
  /-- The attempt failed, and there is time for another one. -/
  | misses {attempt deadline} (early : now + timing.retry.nanos < deadline) :
    Move timing now (.renewing attempt deadline) (some false)
      (.retrying (now + timing.retry.nanos) deadline)
  /-- The attempt failed, and there is no time for another one. -/
  | loses {attempt deadline limit} (late : deadline ≤ now + timing.retry.nanos) :
    Move timing now (.renewing attempt deadline) (some false) (.stopping .lost limit)
  /-- The candidate stops its work, but not because it lost the lock. -/
  | leaves {phase phase'}
      (passive : phase'.isActive = false)
      (kept : phase'.hasLost = false) :
    Move timing now phase none phase'
  /-- The candidate did not work and does not work. -/
  | idles {phase verdict phase'}
      (idle : phase.isActive = false)
      (passive : phase'.isActive = false)
      (kept : phase'.hasLost = false) :
    Move timing now phase verdict phase'

end Phase

namespace Candidacy

variable (candidate : Candidate) (now : Moment) (candidacy : Candidacy)

theorem move_reply (reply : LockReply) :
    Phase.Move candidate.timing now.instant candidacy.phase
      (candidacy.verdict? candidate now (.reply reply))
      (candidacy.step candidate now (.reply reply)).1.phase := by
  obtain ⟨phase, leadership, observed, shutDown⟩ := candidacy
  cases phase with
  | acquiring attempt =>
    simp only [verdict?, step, onReply]
    rcases attempt.answer candidate observed now reply with ⟨observed', next⟩
    cases next with
    | ask attempt' call => exact .idles rfl rfl rfl
    | overflow => exact .idles rfl rfl rfl
    | ended success =>
      cases success <;> cases shutDown
      · exact .idles rfl rfl rfl
      · exact .idles rfl rfl rfl
      · exact .secures
      · exact .idles rfl rfl rfl
  | renewing attempt deadline =>
    simp only [verdict?, step, onReply]
    rcases attempt.answer candidate observed now reply with ⟨observed', next⟩
    cases next with
    | ask attempt' call => exact .asks
    | overflow => exact .leaves rfl rfl
    | ended success =>
      cases success
      · simp only [miss]
        split
        · next late => exact .loses late
        · next early => exact .misses (Nat.lt_of_not_le early)
      · exact .secures
  | releasing release =>
    simp only [verdict?, step, onReply]
    split <;> try split
    all_goals first | contradiction | exact .idles rfl rfl rfl
  | idle | pausing | resting | retrying | stopping | done => exact .stays

theorem move_tick :
    Phase.Move candidate.timing now.instant candidacy.phase
      (candidacy.verdict? candidate now .tick) (candidacy.step candidate now .tick).1.phase := by
  obtain ⟨phase, leadership, observed, shutDown⟩ := candidacy
  simp only [step]
  cases phase with
  | idle | acquiring | releasing | done => exact .stays
  | pausing wake =>
    simp only [timer?, verdict?]
    split
    · exact .idles rfl rfl rfl
    · exact .stays
  | resting wake =>
    simp only [timer?, verdict?]
    split
    · next due => exact .renews due
    · exact .stays
  | retrying wake deadline =>
    simp only [timer?, verdict?]
    split
    · next due => exact .retries due
    · exact .stays
  | renewing attempt deadline =>
    simp only [timer?, verdict?]
    split
    · next due =>
      have rung := Duration.le_ring deadline
      have late : deadline ≤ now.instant + candidate.timing.retry.nanos := by omega
      simp only [onTimer, miss, if_pos late]
      exact .loses late
    · exact .stays
  | stopping ending deadline =>
    simp only [timer?, verdict?]
    split
    · cases ending <;> cases shutDown <;> exact .idles rfl rfl rfl
    · exact .stays

/-- Every event moves a candidate from one phase to the next. -/
theorem move_step (event : ElectionEvent) :
    Phase.Move candidate.timing now.instant candidacy.phase
      (candidacy.verdict? candidate now event) (candidacy.step candidate now event).1.phase := by
  cases event with
  | reply reply => exact move_reply candidate now candidacy reply
  | tick => exact move_tick candidate now candidacy
  | start =>
    obtain ⟨phase, leadership, observed, shutDown⟩ := candidacy
    cases phase <;> first
      | exact .stays
      | (cases shutDown <;> exact .idles rfl rfl rfl)
  | shutDown =>
    obtain ⟨phase, leadership, observed, shutDown⟩ := candidacy
    cases phase <;> first
      | exact .stays
      | exact .leaves rfl rfl
  | workEnded =>
    obtain ⟨phase, leadership, observed, shutDown⟩ := candidacy
    cases phase with
    | stopping ending deadline =>
      cases ending <;> cases shutDown <;> exact .idles rfl rfl rfl
    | resting | renewing | retrying => exact .leaves rfl rfl
    | idle | acquiring | pausing | releasing | done => exact .stays

end Candidacy

namespace Phase

/-- The time of the last success, after an attempt may have ended. -/
def secured (now : Nat) (before : Option Nat) : Option Bool → Option Nat
  | some true => some now
  | some false | none => before

/-- The number of failures in a row, after an attempt may have ended. -/
def failures (before : Nat) : Option Bool → Nat
  | some true => 0
  | some false => before + 1
  | none => before

/-- A candidate that works wakes up and gives up in time, counted from its last success. -/
def Due (timing : Timing) (now : Nat) (secured : Option Nat) : Phase → Prop
  | .resting wake =>
    ∃ moment, secured = some moment ∧ wake = moment + timing.retry.nanos ∧
      now ≤ Duration.ring wake
  | .renewing _ deadline =>
    ∃ moment, secured = some moment ∧
      deadline = Duration.ring (moment + timing.retry.nanos) + timing.renew.nanos ∧
      now ≤ Duration.ring deadline
  | .retrying wake deadline =>
    ∃ moment, secured = some moment ∧
      deadline = Duration.ring (moment + timing.retry.nanos) + timing.renew.nanos ∧
      now ≤ Duration.ring wake ∧ wake < deadline
  | _ => True

/-- Where the lock answers at once, the attempts of a candidate that works are one pace apart, and
the candidate gives up with the failure after which there is no time for another attempt. -/
def Counts (timing : Timing) (now : Nat) (secured : Option Nat) (failures : Nat) : Phase → Prop
  | .resting _ => failures = 0
  | .renewing _ _ =>
    ∃ moment, secured = some moment ∧
      now = Duration.ring (moment + timing.retry.nanos) + failures * timing.pace ∧
      failures * timing.pace < timing.stamina
  | .retrying wake _ =>
    ∃ moment, secured = some moment ∧
      Duration.ring wake =
        Duration.ring (moment + timing.retry.nanos) + failures * timing.pace ∧
      failures * timing.pace < timing.stamina
  | .stopping .lost _ =>
    ∃ before, failures = before + 1 ∧ before * timing.pace < timing.stamina ∧
      timing.stamina ≤ failures * timing.pace
  | _ => True

section Move

variable {timing : Timing} {now moment : Nat} {before : Option Nat} {count : Nat}
  {phase next : Phase} {verdict : Option Bool}

theorem due_of_not_isActive (passive : phase.isActive = false) : phase.Due timing now before := by
  cases phase <;> simp_all [isActive, Due]

theorem counts_of_kept
    (passive : phase.isActive = false)
    (kept : phase.hasLost = false) :
    phase.Counts timing now before count := by
  cases phase with
  | stopping ending limit =>
    cases ending with
    | lost => cases kept
    | shutDown => trivial
  | resting | renewing | retrying => cases passive
  | idle | acquiring | pausing | releasing | done => trivial

/-- A candidate that works is due at most a rest and a renewal after its last success, as their
timers ring. -/
theorem Due.now_le (due : phase.Due timing now before) (active : phase.isActive) :
    ∃ moment, before = some moment ∧
      now ≤ Duration.ring
        (Duration.ring (moment + timing.retry.nanos) + timing.renew.nanos) := by
  cases phase with
  | resting wake =>
    obtain ⟨moment, rfl, rfl, inTime⟩ := due
    exact ⟨moment, rfl, Nat.le_trans inTime (Duration.le_ring_add ..)⟩
  | renewing attempt deadline =>
    obtain ⟨moment, rfl, rfl, inTime⟩ := due
    exact ⟨moment, rfl, inTime⟩
  | retrying wake deadline =>
    obtain ⟨moment, rfl, rfl, inTime, ordered⟩ := due
    exact ⟨moment, rfl, Nat.le_trans inTime (Duration.ring_mono (Nat.le_of_lt ordered))⟩
  | idle | acquiring | pausing | stopping | releasing | done => simp [isActive] at active

theorem Move.due
    (move : Move timing now phase verdict next)
    (due : phase.Due timing now before) :
    next.Due timing now (secured now before verdict) := by
  cases move with
  | stays => exact due
  | secures => exact ⟨now, rfl, rfl, Duration.le_ring_add ..⟩
  | renews woken =>
    obtain ⟨moment, rfl, rfl, inTime⟩ := due
    exact ⟨moment, rfl, by rw [Nat.le_antisymm inTime woken], Duration.le_ring_add ..⟩
  | retries woken =>
    obtain ⟨moment, rfl, rfl, inTime, ordered⟩ := due
    exact ⟨moment, rfl, rfl, Nat.le_trans inTime (Duration.ring_mono (Nat.le_of_lt ordered))⟩
  | asks => exact due
  | misses early =>
    obtain ⟨moment, rfl, rfl, inTime⟩ := due
    exact ⟨moment, rfl, rfl, Duration.le_ring_add .., early⟩
  | loses late => trivial
  | leaves passive | idles _ passive => exact due_of_not_isActive passive

theorem Due.wait
    {candidacy : Candidacy}
    (due : candidacy.phase.Due timing now before)
    (timer : ∀ time, candidacy.timer? = some time → moment ≤ time) :
    candidacy.phase.Due timing moment before := by
  obtain ⟨phase, leadership, observed, shutDown⟩ := candidacy
  cases phase with
  | resting wake =>
    obtain ⟨success, rfl, rfl, -⟩ := due
    exact ⟨success, rfl, rfl, timer _ rfl⟩
  | renewing attempt deadline =>
    obtain ⟨success, rfl, rfl, -⟩ := due
    exact ⟨success, rfl, rfl, timer _ rfl⟩
  | retrying wake deadline =>
    obtain ⟨success, rfl, rfl, -, ordered⟩ := due
    exact ⟨success, rfl, rfl, timer _ rfl, ordered⟩
  | idle | acquiring | pausing | stopping | releasing | done => trivial

/-- An attempt in pace begins at a whole millisecond. -/
theorem dvd_attempt (timing : Timing) (time count : Nat) :
    Duration.perMilli ∣ Duration.ring time + count * timing.pace :=
  Nat.dvd_add (Duration.dvd_ring _) (Nat.dvd_mul_left_of_dvd (Duration.dvd_ring _) _)

theorem Move.counts
    (move : Move timing now phase verdict next)
    (renewPos : 0 < timing.renew.nanos)
    (due : phase.Due timing now before)
    (counts : phase.Counts timing now before count) :
    next.Counts timing now (secured now before verdict) (failures count verdict) := by
  cases move with
  | stays => exact counts
  | secures => rfl
  | renews woken =>
    obtain ⟨moment, rfl, rfl, inTime⟩ := due
    obtain rfl : count = 0 := counts
    refine ⟨moment, rfl, ?_, ?_⟩ <;> simp only [failures, Nat.zero_mul, Nat.add_zero]
    · exact Nat.le_antisymm inTime woken
    · exact Nat.lt_add_right _ renewPos
  | retries woken =>
    obtain ⟨_, -, -, inTime, -⟩ := due
    obtain ⟨moment, rfl, rings, short⟩ := counts
    exact ⟨moment, rfl, (Nat.le_antisymm inTime woken).trans rings, short⟩
  | asks => exact counts
  | misses early =>
    obtain ⟨moment, rfl, rfl, -⟩ := due
    obtain ⟨_, ⟨⟩, rfl, short⟩ := counts
    refine ⟨moment, rfl, ?_, Timing.lt_stamina_of_early (by omega)⟩
    rw [timing.ring_add_retry (dvd_attempt timing _ count), failures, Nat.add_mul, Nat.one_mul,
      Nat.add_assoc]
  | loses late =>
    obtain ⟨moment, rfl, rfl, -⟩ := due
    obtain ⟨_, ⟨⟩, rfl, short⟩ := counts
    have atLeast := timing.retry_le_pace
    refine ⟨count, rfl, short, ?_⟩
    simp only [failures, Nat.add_mul, Nat.one_mul, Timing.stamina]
    omega
  | leaves passive kept | idles _ passive kept => exact counts_of_kept passive kept

theorem Counts.wait
    (counts : phase.Counts timing now before count)
    (prompt : phase.isAsking → moment = now) :
    phase.Counts timing moment before count := by
  cases phase with
  | renewing attempt deadline =>
    obtain rfl := prompt rfl
    exact counts
  | stopping ending limit => cases ending <;> exact counts
  | idle | acquiring | pausing | resting | retrying | releasing | done => exact counts

/-- A candidate that works did not use up the time for a renewal. -/
theorem Counts.short
    (counts : phase.Counts timing now before count)
    (renewPos : 0 < timing.renew.nanos)
    (active : phase.isActive) :
    count * timing.pace < timing.stamina := by
  cases phase with
  | resting wake =>
    obtain rfl : count = 0 := counts
    rw [Nat.zero_mul]
    exact Nat.lt_add_right _ renewPos
  | renewing attempt deadline =>
    obtain ⟨_, _, _, short⟩ := counts
    exact short
  | retrying wake deadline =>
    obtain ⟨_, _, _, short⟩ := counts
    exact short
  | idle | acquiring | pausing | stopping | releasing | done => simp [isActive] at active

/-- A candidate that lost the lock used up the time for a renewal with its last failure. -/
theorem Counts.exhausted
    (counts : phase.Counts timing now before count)
    (lost : phase.hasLost) :
    ∃ less, count = less + 1 ∧ less * timing.pace < timing.stamina ∧
      timing.stamina ≤ count * timing.pace := by
  cases phase with
  | stopping ending limit =>
    cases ending with
    | lost => exact counts
    | shutDown => cases lost
  | idle | acquiring | pausing | resting | renewing | retrying | releasing | done => cases lost

theorem not_isActive_of_hasLost (lost : phase.hasLost) : phase.isActive = false := by
  cases phase with
  | stopping => rfl
  | idle | acquiring | pausing | resting | renewing | retrying | releasing | done => cases lost

/-- A candidate whose renewal fails works on or loses the lock. -/
theorem Move.isActive_or_hasLost
    (move : Move timing now phase (some false) next)
    (active : phase.isActive) :
    next.isActive ∨ next.hasLost := by
  cases move with
  | misses => exact .inl rfl
  | loses => exact .inr rfl
  | idles idle => simp [idle] at active

end Move

end Phase

end VolumeAttacher
