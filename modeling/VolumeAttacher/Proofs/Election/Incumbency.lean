import Mathlib.Logic.Relation
import Mathlib.Order.Nat
import VolumeAttacher.Proofs.Duration.Seconds
import VolumeAttacher.Proofs.Election.Margin
import VolumeAttacher.Proofs.Election.Moves

/-!
# How soon a candidate gives up

One candidate in time, with a lock that answers whatever it likes and whenever it likes, if at all.
The candidate works no longer than a rest and a renewal after its last successful attempt, as their
timers ring. If the lock answers at once, it gives up after a fixed number of failed attempts in a
row, which the check of the settings keeps above one.
-/

namespace VolumeAttacher

namespace Timing

open Binary64 (precision)

theorem margin_ge : 119 / 100 ≤ margin.value := by
  have rounded := (Binary64.isRounded_ofQuotient 12 (by decide : 0 < 10)).1
  rw [margin]
  refine le_trans ?_ rounded
  norm_num [precision]

theorem exactSeconds_retry_lt
    {timing : Timing}
    (enough : timing.isRenewTooShort = false) :
    119 / 100 * (timing.retry.exactSeconds * (1 - precision) ^ 2) * (1 - precision) <
      timing.renew.exactSeconds * (1 + precision) ^ 2 := by
  have above := timing.renew.inSeconds_bounds.2
  have below := timing.retry.inSeconds_bounds.1
  have rounded := (Binary64.isRounded_mul margin timing.retry.inSeconds).1
  have larger : ¬timing.renew.inSeconds.value ≤ (margin.mul timing.retry.inSeconds).value := by
    rw [← Binary64.le_iff]
    simpa [isRenewTooShort] using enough
  have precise : 0 ≤ 1 - precision := by norm_num [precision]
  have retryNonneg := timing.retry.inSeconds.value_nonneg
  have exactNonneg : 0 ≤ timing.retry.exactSeconds * (1 - precision) ^ 2 :=
    mul_nonneg timing.retry.exactSeconds_nonneg (sq_nonneg _)
  have least := margin_ge
  calc 119 / 100 * (timing.retry.exactSeconds * (1 - precision) ^ 2) * (1 - precision)
      ≤ margin.value * timing.retry.inSeconds.value * (1 - precision) := by gcongr
    _ ≤ (margin.mul timing.retry.inSeconds).value := rounded
    _ < timing.renew.inSeconds.value := not_le.mp larger
    _ ≤ timing.renew.exactSeconds * (1 + precision) ^ 2 := above

/-- Accepted settings leave time for a second attempt to renew. -/
theorem retry_lt_renew {timing : Timing} (accepted : timing.check = .ok ()) :
    timing.retry.nanos < timing.renew.nanos := by
  have retryPos := retry_pos accepted
  have enough : timing.isRenewTooShort = false := by
    by_contra tooShort
    simp only [check, Bool.not_eq_false] at accepted tooShort
    simp only [tooShort] at accepted
    split_ifs at accepted
  have larger := exactSeconds_retry_lt enough
  have positive : 0 < timing.retry.exactSeconds := by
    have positive' : (0 : ℚ) < timing.retry.nanos := by exact_mod_cast retryPos
    exact div_pos positive' (by norm_num [Duration.perSecond])
  by_contra short
  have most := (Duration.exactSeconds_le_iff _ _).mpr (not_lt.mp short)
  norm_num [precision] at larger
  linarith

end Timing

namespace Seat

/-- What an event finds: an answer that arrives is not pending any more, and work that ended does
not go on. -/
def prepared (seat : Seat) : ElectionEvent → Seat
  | .reply _ => { seat with pending := none }
  | .workEnded => { seat with isWorking := false }
  | .start | .tick | .shutDown => seat

@[simp] theorem prepared_candidacy (seat : Seat) (event : ElectionEvent) :
    (seat.prepared event).candidacy = seat.candidacy := by
  cases event <;> rfl

/-- Where no work ends, the procedure goes on for just as long as the phase says. -/
theorem Turn.isWorking
    {candidate : Candidate}
    {now : Moment}
    {event : ElectionEvent}
    {seat next : Seat}
    (turn : Turn candidate now event seat next)
    (other : event ≠ .workEnded)
    (works : seat.isWorking = seat.candidacy.phase.isActive) :
    next.isWorking = next.candidacy.phase.isActive := by
  cases turn with
  | stays | renews | retries | keepsAsking | rests | misses => exact works
  | asks | pauses | giveUp | collapses | vacates | retires | retiresFree => exact works
  | leads | leadsInVain | loses | breaksDown | stops | breaksOff => rfl
  | seeks _ _ passive less | leaves _ passive less => simp_all [Phase.isActive]
  | releases _ passive less =>
    have passive := passive.resolve_left other
    simp_all [Phase.isActive]

theorem isWorking_after_workEnded
    (candidate : Candidate)
    (now : Moment)
    {seat : Seat}
    (ended : seat.isWorking = false) :
    (seat.after candidate now .workEnded).isWorking =
      (seat.after candidate now .workEnded).candidacy.phase.isActive := by
  obtain ⟨⟨phase, leadership, observed, shutDown⟩, pending, isWorking⟩ := seat
  obtain rfl : isWorking = false := ended
  cases phase with
  | stopping ending deadline => cases ending <;> cases shutDown <;> rfl
  | idle | acquiring | pausing | resting | renewing | retrying | releasing | done => rfl

/-- The procedure of a candidate runs for just as long as the phase says. -/
theorem isWorking_after
    (candidate : Candidate)
    (now : Moment)
    (event : ElectionEvent)
    {seat : Seat}
    (works : seat.isWorking = seat.candidacy.phase.isActive) :
    ((seat.prepared event).after candidate now event).isWorking =
      ((seat.prepared event).after candidate now event).candidacy.phase.isActive := by
  by_cases ended : event = .workEnded
  · subst ended
    exact isWorking_after_workEnded candidate now rfl
  · refine (turn_after candidate now event _).isWorking ended ?_
    cases event with
    | workEnded => exact absurd rfl ended
    | start | reply | tick | shutDown => exact works

end Seat

/-- A candidate in time, and how its attempts went. -/
structure Incumbency where
  now : Nat
  seat : Seat
  /-- The time at which the last successful attempt returned. -/
  secured : Option Nat
  /-- The number of attempts that failed since then. -/
  failures : Nat

namespace Incumbency

/-- A candidate that did not start yet. -/
def initial : Incumbency := ⟨0, .vacant, none, 0⟩

/-- What an event makes of the present attempt. -/
def verdict?
    (candidate : Candidate)
    (incumbency : Incumbency)
    (clock : Timestamp)
    (event : ElectionEvent) : Option Bool :=
  incumbency.seat.candidacy.verdict? candidate ⟨incumbency.now, clock⟩ event

/-- The candidate gets an event. -/
def after
    (candidate : Candidate)
    (incumbency : Incumbency)
    (clock : Timestamp)
    (event : ElectionEvent) : Incumbency where
  now := incumbency.now
  seat := (incumbency.seat.prepared event).after candidate ⟨incumbency.now, clock⟩ event
  secured := Phase.secured incumbency.now incumbency.secured
    (incumbency.verdict? candidate clock event)
  failures := Phase.failures incumbency.failures (incumbency.verdict? candidate clock event)

/-- One step: something happens to the candidate, the lock answering its calls in any way, or time
passes, but not beyond the moment at which the candidate goes on by itself. No time passes before an
answer if the lock answers at once. -/
inductive Step (candidate : Candidate) (atOnce : Bool) : Incumbency → Incumbency → Prop
  | occurs (incumbency : Incumbency) (clock : Timestamp) (event : ElectionEvent) :
    Step candidate atOnce incumbency (incumbency.after candidate clock event)
  | wait (incumbency : Incumbency) (moment : Nat)
      (later : incumbency.now ≤ moment)
      (timer : ∀ time, incumbency.seat.candidacy.timer? = some time → moment ≤ time)
      (prompt : atOnce → incumbency.seat.candidacy.phase.isAsking → moment = incumbency.now) :
    Step candidate atOnce incumbency { incumbency with now := moment }

/-- What comes about from a candidate that did not start. -/
def Reachable (candidate : Candidate) (atOnce : Bool) : Incumbency → Prop :=
  Relation.ReflTransGen (Step candidate atOnce) initial

/-- The candidate stops its work because it lost the lock. -/
def HasLost (incumbency : Incumbency) : Prop :=
  incumbency.seat.candidacy.phase.hasLost = true

variable {candidate : Candidate} {atOnce : Bool} {incumbency next : Incumbency}

theorem move_after
    (candidate : Candidate)
    (incumbency : Incumbency)
    (clock : Timestamp)
    (event : ElectionEvent) :
    Phase.Move candidate.timing incumbency.now incumbency.seat.candidacy.phase
      (incumbency.verdict? candidate clock event)
      (incumbency.after candidate clock event).seat.candidacy.phase := by
  have move := Candidacy.move_step candidate ⟨incumbency.now, clock⟩ incumbency.seat.candidacy event
  rwa [after, Seat.after_candidacy, Seat.prepared_candidacy]

/-- The procedure of a candidate runs for just as long as its phase says. -/
theorem Reachable.isWorking
    (reachable : Reachable candidate atOnce incumbency) :
    incumbency.seat.isWorking = incumbency.seat.candidacy.phase.isActive := by
  induction reachable with
  | refl => rfl
  | tail _ step works =>
    cases step with
    | occurs clock event => exact Seat.isWorking_after _ _ _ works
    | wait => exact works

theorem Reachable.due (reachable : Reachable candidate atOnce incumbency) :
    incumbency.seat.candidacy.phase.Due candidate.timing incumbency.now incumbency.secured := by
  induction reachable with
  | refl => trivial
  | tail _ step due =>
    cases step with
    | occurs clock event => exact (move_after candidate _ clock event).due due
    | wait moment later timer prompt => exact due.wait timer

theorem Reachable.counts
    (reachable : Reachable candidate true incumbency)
    (accepted : candidate.timing.check = .ok ()) :
    incumbency.seat.candidacy.phase.Counts candidate.timing incumbency.now incumbency.secured
      incumbency.failures := by
  induction reachable with
  | refl => trivial
  | tail reachable step counts =>
    have due := Reachable.due reachable
    cases step with
    | occurs clock event =>
      exact (move_after candidate _ clock event).counts (Timing.renew_pos accepted) due counts
    | wait moment later timer prompt =>
      exact Phase.Counts.wait counts (prompt rfl)

/-- The number of failures in a row with which a candidate gives up where the lock answers at once:
so many attempts at the pace take longer than a renewal keeps it up, and no smaller number does. -/
def IsFailureLimit (timing : Timing) (limit : Nat) : Prop :=
  IsLeast {count | timing.stamina ≤ count * timing.pace} limit

/-- A candidate with accepted settings does not give up with its first failure. -/
theorem exists_isFailureLimit
    {timing : Timing}
    (accepted : timing.check = .ok ()) :
    ∃ limit, IsFailureLimit timing limit ∧ 2 ≤ limit := by
  have enough : ∃ count, timing.stamina ≤ count * timing.pace :=
    ⟨timing.stamina, Nat.le_mul_of_pos_right _ (Timing.pace_pos accepted)⟩
  obtain ⟨limit, least⟩ : ∃ limit, IsFailureLimit timing limit := ⟨_, Nat.isLeast_find enough⟩
  refine ⟨limit, least, ?_⟩
  by_contra few
  have small : limit * timing.pace ≤ 1 * timing.pace := Nat.mul_le_mul_right _ (by omega)
  have sufficient : timing.stamina ≤ limit * timing.pace := least.1
  have short := Timing.retry_lt_renew accepted
  have atLeast := timing.retry_le_pace
  unfold Timing.stamina at sufficient
  omega

theorem IsFailureLimit.lt_of_short
    {timing : Timing}
    {limit count : Nat}
    (least : IsFailureLimit timing limit)
    (short : count * timing.pace < timing.stamina) :
    count < limit := by
  have enough : timing.stamina ≤ limit * timing.pace := least.1
  exact Nat.lt_of_mul_lt_mul_right (Nat.lt_of_lt_of_le short enough)

theorem Reachable.failures_lt
    {limit : Nat}
    (reachable : Reachable candidate true incumbency)
    (accepted : candidate.timing.check = .ok ())
    (least : IsFailureLimit candidate.timing limit)
    (works : incumbency.seat.isWorking) :
    incumbency.failures < limit := by
  rw [reachable.isWorking] at works
  exact least.lt_of_short ((reachable.counts accepted).short (Timing.renew_pos accepted) works)

theorem Reachable.failures_eq
    {limit : Nat}
    (reachable : Reachable candidate true incumbency)
    (accepted : candidate.timing.check = .ok ())
    (least : IsFailureLimit candidate.timing limit)
    (lost : incumbency.HasLost) :
    incumbency.failures = limit := by
  obtain ⟨before, count, short, enough⟩ := (reachable.counts accepted).exhausted lost
  have above := least.lt_of_short short
  have below : limit ≤ incumbency.failures := least.2 enough
  omega

theorem HasLost.not_isWorking
    (lost : incumbency.HasLost)
    (reachable : Reachable candidate atOnce incumbency) :
    incumbency.seat.isWorking = false := by
  rw [reachable.isWorking]
  exact Phase.not_isActive_of_hasLost lost

/-- A candidate that fails to renew the lock works on or lost the lock. -/
theorem Reachable.isWorking_or_hasLost
    {clock : Timestamp}
    {event : ElectionEvent}
    (reachable : Reachable candidate atOnce incumbency)
    (works : incumbency.seat.isWorking)
    (fails : incumbency.verdict? candidate clock event = some false) :
    (incumbency.after candidate clock event).seat.isWorking ∨
      (incumbency.after candidate clock event).HasLost := by
  have following : Reachable candidate atOnce (incumbency.after candidate clock event) :=
    reachable.tail (.occurs incumbency clock event)
  have move := move_after candidate incumbency clock event
  rw [fails] at move
  rw [reachable.isWorking] at works
  rw [following.isWorking]
  exact move.isActive_or_hasLost works

/-- With accepted settings, the procedure of a candidate runs no longer than a rest and a renewal
after the last successful attempt returned, as their timers ring, whatever the lock does. If the lock
answers at once, the procedure is told to stop because the lock was lost exactly with the failure
that makes a fixed number of them in a row, which is the least number of attempts whose pace takes
longer than a renewal keeps it up, and at least two. -/
theorem losses_are_bounded (accepted : candidate.timing.check = .ok ()) :
    (∀ incumbency, Reachable candidate false incumbency → incumbency.seat.isWorking →
      ∃ moment, incumbency.secured = some moment ∧ incumbency.now ≤ Duration.ring
        (Duration.ring (moment + candidate.timing.retry.nanos) + candidate.timing.renew.nanos)) ∧
    ∃ limit, IsFailureLimit candidate.timing limit ∧ 2 ≤ limit ∧
      ∀ incumbency, Reachable candidate true incumbency →
        (incumbency.seat.isWorking → incumbency.failures < limit) ∧
        (incumbency.HasLost → incumbency.failures = limit) ∧
        ∀ clock event, incumbency.seat.isWorking →
          incumbency.verdict? candidate clock event = some false →
            ((incumbency.after candidate clock event).HasLost ↔
                incumbency.failures + 1 = limit) ∧
              ((incumbency.after candidate clock event).seat.isWorking ↔
                incumbency.failures + 1 < limit) := by
  obtain ⟨limit, least, several⟩ := exists_isFailureLimit accepted
  refine ⟨fun incumbency reachable works => reachable.due.now_le ?_, limit, least, several, ?_⟩
  · rwa [← reachable.isWorking]
  intro incumbency reachable
  refine ⟨reachable.failures_lt accepted least, reachable.failures_eq accepted least, ?_⟩
  intro clock event works fails
  have following : Reachable candidate true (incumbency.after candidate clock event) :=
    reachable.tail (.occurs incumbency clock event)
  have count : (incumbency.after candidate clock event).failures = incumbency.failures + 1 := by
    simp [after, fails, Phase.failures]
  have working := following.failures_lt accepted least
  have losing := following.failures_eq accepted least
  rw [count] at working losing
  obtain goesOn | lost := reachable.isWorking_or_hasLost works fails
  · have inTime := working goesOn
    refine ⟨⟨losing, by omega⟩, ⟨working, fun _ => goesOn⟩⟩
  · have last := losing lost
    have idle := lost.not_isWorking following
    refine ⟨⟨losing, fun _ => lost⟩, ⟨working, by omega⟩⟩

/-- A candidate that has just created the record of the lock. -/
def elected (candidate : Candidate) : Incumbency :=
  ((initial.after candidate default .start).after candidate default
    (.reply (.got (.ok none)))).after candidate default (.reply (.written (.ok ())))

theorem reachable_elected (candidate : Candidate) (atOnce : Bool) :
    Reachable candidate atOnce (elected candidate) :=
  ((Relation.ReflTransGen.single (.occurs _ _ _)).tail (.occurs _ _ _)).tail (.occurs _ _ _)

/-- A candidate that tries to renew the lock after so many steps of its pace. -/
def attempting (candidate : Candidate) (incumbency : Incumbency) (count : Nat) : Incumbency :=
  { incumbency with now := count * candidate.timing.pace }.after candidate default .tick

/-- A candidate that failed so many times to renew the lock that it created. -/
def afterFailures (candidate : Candidate) : Nat → Incumbency
  | 0 => elected candidate
  | count + 1 =>
    (attempting candidate (afterFailures candidate count) (count + 1)).after candidate default
      (.reply (.got (.error (.lockConflict "lock"))))

theorem now_afterFailures (candidate : Candidate) (count : Nat) :
    (afterFailures candidate count).now = count * candidate.timing.pace := by
  cases count with
  | zero => exact (Nat.zero_mul _).symm
  | succ count => rfl

/-- A candidate whose timer rings at the next step of its pace tries to renew the lock. -/
theorem reachable_attempting
    (count : Nat)
    (reachable : Reachable candidate atOnce (afterFailures candidate count))
    (timer : (afterFailures candidate count).seat.candidacy.timer? =
      some ((count + 1) * candidate.timing.pace))
    (waits : (afterFailures candidate count).seat.candidacy.phase.isAsking = false) :
    Reachable candidate atOnce
      (attempting candidate (afterFailures candidate count) (count + 1)) := by
  refine (reachable.tail (.wait _ _ ?_ ?_ ?_)).tail (.occurs _ _ _)
  · rw [now_afterFailures]
    exact Nat.mul_le_mul_right _ (Nat.le_succ count)
  · intro time rings
    exact (Option.some.inj (timer.symm.trans rings)).le
  · rw [waits]
    exact fun _ asking => nomatch asking

theorem reachable_afterFailures_succ
    {count : Nat}
    (reachable : Reachable candidate atOnce (afterFailures candidate count))
    (timer : (afterFailures candidate count).seat.candidacy.timer? =
      some ((count + 1) * candidate.timing.pace))
    (waits : (afterFailures candidate count).seat.candidacy.phase.isAsking = false) :
    Reachable candidate atOnce (afterFailures candidate (count + 1)) :=
  (reachable_attempting count reachable timer waits).tail (.occurs _ _ _)

/-- A candidate whose first attempt to renew the lock is never answered waits until its timer
rings. -/
theorem reachable_hanging
    (candidate : Candidate)
    (moment : Nat)
    (timer : (elected candidate).seat.candidacy.timer? = some (1 * candidate.timing.pace))
    (later : (attempting candidate (elected candidate) 1).now ≤ moment)
    (deadline : (attempting candidate (elected candidate) 1).seat.candidacy.timer? =
      some moment) :
    Reachable candidate false
      { attempting candidate (elected candidate) 1 with now := moment } := by
  have begins : Reachable candidate false (attempting candidate (elected candidate) 1) :=
    reachable_attempting 0 (reachable_elected candidate false) timer rfl
  refine begins.tail (.wait _ _ later ?_ nofun)
  intro time rings
  exact (Option.some.inj (deadline.symm.trans rings)).le

/-- A candidate with the standard settings. -/
def holder : Candidate := ⟨"holder", .standard⟩

/-- With the standard settings, a candidate whose first renewal is never answered works up to the
last moment, and one whose renewals fail at once gives up with the second failure. -/
theorem losses_are_bounded_with_standard_timing :
    holder.timing.check = .ok () ∧
      (∃ incumbency, Reachable holder false incumbency ∧ incumbency.seat.isWorking ∧
        incumbency.now = 15 * Duration.perSecond ∧
        ∃ moment, incumbency.secured = some moment ∧ incumbency.now ≤ Duration.ring
          (Duration.ring (moment + holder.timing.retry.nanos) + holder.timing.renew.nanos)) ∧
      ∃ limit, IsFailureLimit holder.timing limit ∧
        ∃ incumbency, Reachable holder true incumbency ∧ incumbency.HasLost ∧
          incumbency.failures = 2 ∧ incumbency.failures = limit := by
  have accepted : holder.timing.check = .ok () := rfl
  obtain ⟨bounded, limit, least, -, counted⟩ := losses_are_bounded accepted
  have hanging := reachable_hanging holder (15 * Duration.perSecond)
    (by decide +kernel) (by decide +kernel) (by decide +kernel)
  have works : (attempting holder (elected holder) 1).seat.isWorking = true := by decide +kernel
  have failing : Reachable holder true (afterFailures holder 1) :=
    reachable_afterFailures_succ (reachable_elected holder true) (by decide +kernel) rfl
  have losing : Reachable holder true (afterFailures holder 2) :=
    reachable_afterFailures_succ failing (by decide +kernel) (by decide +kernel)
  have lost : (afterFailures holder 2).HasLost := by
    unfold HasLost
    decide +kernel
  exact ⟨accepted, ⟨_, hanging, works, rfl, bounded _ hanging works⟩, limit, least,
    _, losing, lost, by decide +kernel, (counted _ losing).2.1 lost⟩

/-- A candidate whose time between attempts is not a number of whole milliseconds. -/
def offBeat : Candidate :=
  ⟨"holder", ⟨.ofSeconds 1, ⟨752000000⟩, ⟨250500000⟩, .ofSeconds 10⟩⟩

/-- With renewals of 752 milliseconds and attempts every 250.5, four rests and no fewer take as long
as a renewal. But the timers for the rests ring after 251 milliseconds. So a candidate whose renewals
fail at once gives up with the third failure, and one whose first renewal is never answered works for
longer than a rest and a renewal. -/
theorem losses_come_with_the_timers :
    offBeat.timing.check = .ok () ∧
      IsLeast {count | offBeat.timing.renew.nanos ≤ count * offBeat.timing.retry.nanos} 4 ∧
      (∃ incumbency, Reachable offBeat true incumbency ∧ incumbency.HasLost ∧
        incumbency.failures = 3) ∧
      ∃ incumbency, Reachable offBeat false incumbency ∧ incumbency.seat.isWorking ∧
        incumbency.secured = some 0 ∧
        0 + (offBeat.timing.retry.nanos + offBeat.timing.renew.nanos) < incumbency.now := by
  have accepted : offBeat.timing.check = .ok () := by decide +kernel
  have four :
      IsLeast {count | offBeat.timing.renew.nanos ≤ count * offBeat.timing.retry.nanos} 4 := by
    refine ⟨by decide, fun count enough => ?_⟩
    have renew : offBeat.timing.renew.nanos = 752000000 := rfl
    have retry : offBeat.timing.retry.nanos = 250500000 := rfl
    rw [Set.mem_ofPred_eq, renew, retry] at enough
    omega
  have once : Reachable offBeat true (afterFailures offBeat 1) :=
    reachable_afterFailures_succ (reachable_elected offBeat true) (by decide +kernel) rfl
  have twice : Reachable offBeat true (afterFailures offBeat 2) :=
    reachable_afterFailures_succ once (by decide +kernel) (by decide +kernel)
  have losing : Reachable offBeat true (afterFailures offBeat 3) :=
    reachable_afterFailures_succ twice (by decide +kernel) (by decide +kernel)
  have lost : (afterFailures offBeat 3).HasLost := by
    unfold HasLost
    decide +kernel
  have hanging := reachable_hanging offBeat (1003 * Duration.perMilli)
    (by decide +kernel) (by decide +kernel) (by decide +kernel)
  exact ⟨accepted, four, ⟨_, losing, lost, by decide +kernel⟩, _, hanging, by decide +kernel,
    by decide +kernel, by decide⟩

end Incumbency

end VolumeAttacher
