import VolumeAttacher.Proofs.Election.Moves
import VolumeAttacher.Proofs.Election.Overlap

/-!
# Margins

Settings that are safe where the lock answers at once. A candidate then never waits for an answer
while time passes, its attempts follow each other at a pace of whole milliseconds, and it gives up
with an attempt and not between two. Hence it stops in time if the attempt with which it gives up
comes before the whole seconds of the lease are over. Otherwise a rival, whose attempts keep the same
pace, takes the lock over while the holder still works. Where the time between attempts is a number
of whole milliseconds, a lease that is just as long as a rest and a renewal suffices. The check of
the settings does not ask for so long a lease.
-/

namespace VolumeAttacher

namespace Timing

variable {timing : Timing}

/-- So many attempts at the pace take longer than a renewal keeps it up, and end before the whole
seconds of the lease do. -/
def HasMargin (timing : Timing) : Prop :=
  ∃ count, timing.stamina ≤ count * timing.pace ∧
    count * timing.pace < timing.recordedLease.nanos

theorem renew_pos (accepted : timing.check = .ok ()) : 0 < timing.renew.nanos := by
  by_contra zero
  have none : timing.renew = ⟨0⟩ := by
    rw [← Nat.eq_zero_of_not_pos zero]
  have zeroSeconds : timing.renew.inSeconds = ⟨0, 0⟩ := by
    rw [none]
    rfl
  have tooShort : timing.isRenewTooShort = true := by
    simp [isRenewTooShort, zeroSeconds, Binary64.le, Binary64.quotient]
  simp only [check, tooShort] at accepted
  split_ifs at accepted

theorem retry_pos (accepted : timing.check = .ok ()) : 0 < timing.retry.nanos := by
  by_contra zero
  have isZero : timing.retry.isZero = true := by
    simpa [Duration.isZero] using zero
  simp [check, isZero] at accepted

theorem pace_pos (accepted : timing.check = .ok ()) : 0 < timing.pace :=
  Nat.lt_of_lt_of_le (retry_pos accepted) timing.retry_le_pace

theorem dvd_recordedLease (timing : Timing) : Duration.perMilli ∣ timing.recordedLease.nanos :=
  Nat.dvd_mul_left_of_dvd (by decide : Duration.perMilli ∣ Duration.perSecond) _

/-- Where there is a margin, a rest that follows on an attempt that is not the last one ends before
the lease, even if its timer rings late. -/
theorem HasMargin.lt_recordedLease
    {count : Nat}
    (margin : timing.HasMargin)
    (short : count * timing.pace < timing.stamina) :
    count * timing.pace + timing.retry.nanos + (Duration.perMilli - 1) <
      timing.recordedLease.nanos := by
  obtain ⟨last, enough, inTime⟩ := margin
  have fewer : count < last :=
    Nat.lt_of_mul_lt_mul_right (Nat.lt_of_lt_of_le short enough)
  have most : (count + 1) * timing.pace ≤ last * timing.pace := Nat.mul_le_mul_right _ fewer
  have whole : Duration.perMilli ∣ last * timing.pace :=
    Nat.dvd_mul_left_of_dvd (Duration.dvd_ring _) _
  have apart := Nat.le_of_dvd (Nat.sub_pos_of_lt inTime)
    (Nat.dvd_sub timing.dvd_recordedLease whole)
  have rests := timing.retry_le_pace
  rw [Nat.add_mul, Nat.one_mul] at most
  have positive : 0 < Duration.perMilli := by decide
  omega

/-- Some number of steps takes as long as a given time, and less than one step longer. -/
theorem exists_mul_between
    {step : Nat}
    (positive : 0 < step)
    (time : Nat) :
    ∃ count, time ≤ count * step ∧ count * step < time + step := by
  have split := Nat.div_add_mod (time + (step - 1)) step
  have rest := Nat.mod_lt (time + (step - 1)) positive
  rw [Nat.mul_comm] at split
  exact ⟨(time + (step - 1)) / step, by omega, by omega⟩

/-- Whole milliseconds between attempts leave a margin where the whole seconds of the lease cover a
renewal and the rest before it. -/
theorem hasMargin_of_dvd
    (accepted : timing.check = .ok ())
    (whole : Duration.perMilli ∣ timing.retry.nanos)
    (covers : timing.renew.nanos + timing.retry.nanos ≤ timing.recordedLease.nanos) :
    timing.HasMargin := by
  have same : timing.pace = timing.retry.nanos := Duration.ring_eq_of_dvd whole
  obtain ⟨count, enough, inTime⟩ := exists_mul_between (retry_pos accepted) timing.renew.nanos
  refine ⟨count, ?_, ?_⟩
  · simpa [stamina, same] using enough
  · rw [same]
    exact Nat.lt_of_lt_of_le inTime covers

end Timing

namespace Phase

/-- The attempts of a renewal follow each other at the pace, and there is time for each of them. -/
def Paced (timing : Timing) (now : Nat) : Phase → Prop
  | .renewing _ deadline =>
    ∃ first count, Duration.perMilli ∣ first ∧ deadline = first + timing.renew.nanos ∧
      now = first + count * timing.pace ∧ count * timing.pace < timing.stamina
  | .retrying wake deadline =>
    ∃ first count, Duration.perMilli ∣ first ∧ deadline = first + timing.renew.nanos ∧
      Duration.ring wake = first + count * timing.pace ∧ count * timing.pace < timing.stamina
  | _ => True

variable {timing : Timing} {now moment : Nat} {phase next : Phase} {verdict : Option Bool}

theorem paced_of_not_isActive (passive : phase.isActive = false) : phase.Paced timing now := by
  cases phase <;> simp_all [isActive, Paced]

theorem Move.paced
    (move : Move timing now phase verdict next)
    (renewPos : 0 < timing.renew.nanos)
    (inTime : ∀ wake, phase = .resting wake ∨ (∃ deadline, phase = .retrying wake deadline) →
      now ≤ Duration.ring wake)
    (paced : phase.Paced timing now) :
    next.Paced timing now := by
  cases move with
  | stays | asks => exact paced
  | secures | loses => trivial
  | @renews wake _ woken =>
    obtain rfl : now = Duration.ring wake := Nat.le_antisymm (inTime wake (.inl rfl)) woken
    exact ⟨Duration.ring wake, 0, Duration.dvd_ring wake, rfl, by rw [Nat.zero_mul, Nat.add_zero],
      by rw [Nat.zero_mul]; exact Nat.lt_add_right _ renewPos⟩
  | @retries wake deadline _ woken =>
    obtain rfl : now = Duration.ring wake := Nat.le_antisymm (inTime wake (.inr ⟨_, rfl⟩)) woken
    exact paced
  | misses early =>
    obtain ⟨first, count, whole, rfl, rfl, -⟩ := paced
    have begins : Duration.perMilli ∣ first + count * timing.pace :=
      Nat.dvd_add whole (Nat.dvd_mul_left_of_dvd (Duration.dvd_ring _) _)
    refine ⟨first, count + 1, whole, rfl, ?_, Timing.lt_stamina_of_early ?_⟩
    · rw [timing.ring_add_retry begins, Nat.add_mul, Nat.one_mul, Nat.add_assoc]
    · omega
  | leaves passive | idles _ passive => exact paced_of_not_isActive passive

/-- A candidate that does not wait for an answer keeps its pace while time passes. -/
theorem Paced.wait
    (paced : phase.Paced timing now)
    (prompt : phase.isAsking → moment = now) :
    phase.Paced timing moment := by
  cases phase with
  | renewing attempt deadline =>
    obtain rfl := prompt rfl
    exact paced
  | idle | acquiring | pausing | resting | retrying | stopping | releasing | done => exact paced

end Phase

namespace Seat

variable {candidate : Candidate} {now : Moment} {event : ElectionEvent} {seat next : Seat}

/-- A candidate that waits for an answer has a pending call. -/
def Asks (seat : Seat) : Prop :=
  seat.candidacy.phase.isAsking → seat.pending ≠ none

/-- A candidate goes on to wait for an answer only with another call. -/
theorem Turn.asking
    (turn : Turn candidate now event seat next)
    (asks : (∀ reply, event ≠ .reply reply) → seat.Asks) :
    next.Asks := by
  cases turn with
  | stays waits =>
    intro asking
    exact asks (fun reply told => by simp [waits reply told] at asking) asking
  | seeks | asks | renews | retries | keepsAsking | releases | vacates => simp [Asks]
  | leaves | leads | leadsInVain | pauses | giveUp | collapses | rests | misses | loses
  | breaksDown | stops | breaksOff | retires | retiresFree => simp [Asks, Phase.isAsking]

/-- Every event leaves a candidate that is not late in its pace. -/
theorem paced_after
    (accepted : candidate.timing.check = .ok ())
    (timer : ∀ time, seat.candidacy.timer? = some time → now.instant ≤ time)
    (paced : seat.candidacy.phase.Paced candidate.timing now.instant) :
    (seat.after candidate now event).candidacy.phase.Paced candidate.timing now.instant := by
  rw [after_candidacy]
  refine (Candidacy.move_step candidate now seat.candidacy event).paced
    (Timing.renew_pos accepted) ?_ paced
  rintro wake (rests | ⟨deadline, retries⟩)
  · exact timer _ (by simp [Candidacy.timer?, rests])
  · exact timer _ (by simp [Candidacy.timer?, retries])

end Seat

namespace Contest

variable {ι : Type} [DecidableEq ι] {electorate : Electorate ι} {timing : Timing}
  {contest following : Contest ι}

/-- No time passes while a candidate waits for an answer. -/
def answersAtOnce : Patience ι := fun contest moment =>
  moment = contest.now ∨ ∀ index, (contest.seats index).pending = none

/-- All candidates keep their pace, and those that wait for an answer have a pending call. -/
structure Punctual (electorate : Electorate ι) (contest : Contest ι) : Prop where
  asks : ∀ index, (contest.seats index).Asks
  paced : ∀ index,
    (contest.seats index).candidacy.phase.Paced (electorate.candidate index).timing contest.now

namespace Punctual

omit [DecidableEq ι] in
theorem initial (electorate : Electorate ι) (found : Option Versioned) :
    Punctual electorate (Contest.initial found) where
  asks _ asking := nomatch asking
  paced _ := trivial

/-- A candidate takes another seat in a punctual contest. -/
theorem seated
    {index : ι}
    {seat : Seat}
    (punctual : contest.Punctual electorate)
    (asks : seat.Asks)
    (next : seat.candidacy.phase.Paced (electorate.candidate index).timing contest.now) :
    (contest.seated index seat).Punctual electorate := by
  constructor
  all_goals
    intro other
    by_cases own : other = index
  · subst own
    rwa [seated_seats_self]
  · rw [seated_seats_of_ne _ _ own]
    exact punctual.asks other
  · subst own
    rwa [seated_seats_self]
  · rw [seated_seats_of_ne _ _ own]
    exact punctual.paced other

/-- A candidate's event in a punctual contest. -/
theorem deliver
    {index : ι}
    {clock : Timestamp}
    {event : ElectionEvent}
    {seat : Seat}
    (punctual : contest.Punctual electorate)
    (accepted : (electorate.candidate index).timing.check = .ok ())
    (timer : ∀ time, (contest.seats index).candidacy.timer? = some time → contest.now ≤ time)
    (same : seat.candidacy = (contest.seats index).candidacy)
    (asks : (∀ reply, event ≠ .reply reply) → seat.Asks) :
    (contest.deliver electorate index clock event seat).Punctual electorate := by
  have turn := Seat.turn_after (electorate.candidate index) ⟨contest.now, clock⟩ event seat
  have next := punctual.seated (turn.asking asks)
    (Seat.paced_after accepted (by rwa [same]) (by rw [same]; exact punctual.paced index))
  exact ⟨next.asks, next.paced⟩

/-- Every step of a punctual contest leads to a punctual one. -/
theorem step
    (punctual : contest.Punctual electorate)
    (shared : electorate.Shares timing)
    (accepted : timing.check = .ok ())
    (timer : ∀ index time, (contest.seats index).candidacy.timer? = some time →
      contest.now ≤ time)
    (step : Step electorate answersAtOnce contest following) :
    following.Punctual electorate := by
  have check (index : ι) : (electorate.candidate index).timing.check = .ok () := by
    have own : (electorate.candidate index).timing = timing := shared index
    rwa [own]
  cases step with
  | start index clock | tick index clock | shutDown index clock =>
    exact punctual.deliver (check index) (timer index) rfl fun _ => punctual.asks index
  | workEnds index clock ends =>
    exact punctual.deliver (check index) (timer index) rfl fun _ => punctual.asks index
  | serve index call postings reply pending serves =>
    have asks : Seat.Asks
        { contest.seats index with pending := some ⟨call, some (reply, contest.now)⟩ } := by
      simp [Seat.Asks]
    have next := punctual.seated asks (punctual.paced index)
    exact ⟨next.asks, next.paced⟩
  | answer index clock call reply time pending =>
    exact punctual.deliver (check index) (timer index) rfl fun other => absurd rfl (other reply)
  | fail index clock call fault pending =>
    have next : (contest.deliver electorate index clock (.reply (call.failure fault))
        { contest.seats index with pending := none }).Punctual electorate :=
      punctual.deliver (check index) (timer index) rfl fun other => absurd rfl (other _)
    exact ⟨next.asks, next.paced⟩
  | serveAbandoned => exact ⟨punctual.asks, punctual.paced⟩
  | crash index =>
    have next : (contest.seated index (contest.seats index).crashed).Punctual electorate :=
      punctual.seated nofun trivial
    exact ⟨next.asks, next.paced⟩
  | wait moment later timers prompt patient =>
    refine ⟨punctual.asks, fun index => (punctual.paced index).wait fun asking => ?_⟩
    exact patient.resolve_right fun answered => punctual.asks index asking (answered index)

omit [DecidableEq ι] in
/-- Where there is a margin, nobody in a punctual contest works up to the end of its lease. -/
theorem isAhead
    (punctual : contest.Punctual electorate)
    (timely : contest.Timely electorate 0)
    (shared : electorate.Shares timing)
    (margin : timing.HasMargin)
    (renewPos : 0 < timing.renew.nanos) :
    contest.IsAhead electorate timing 0 := by
  intro index limit limited
  have own : (electorate.candidate index).timing = timing := shared index
  have paced := punctual.paced index
  have timer := (timely index).timer
  unfold Timing.stint
  rw [own] at limited paced
  simp only [Candidacy.timer?] at timer
  cases phase : (contest.seats index).candidacy.phase with
  | resting wake =>
    obtain rfl : Duration.ring wake + Duration.ring timing.renew.nanos = limit := by
      simpa [phase, Phase.limit] using limited
    have inTime := timer (Duration.ring wake) (by rw [phase])
    have first : 0 * timing.pace < timing.stamina := by
      rw [Nat.zero_mul]
      exact Nat.lt_add_right _ renewPos
    have ahead := margin.lt_recordedLease first
    omega
  | renewing attempt deadline =>
    obtain rfl : Duration.ring deadline = limit := by simpa [phase, Phase.limit] using limited
    rw [phase] at paced
    obtain ⟨first, count, whole, rfl, now, short⟩ := paced
    have ahead := margin.lt_recordedLease short
    rw [Duration.ring_add_of_dvd whole]
    omega
  | retrying wake deadline =>
    obtain rfl : Duration.ring deadline = limit := by simpa [phase, Phase.limit] using limited
    rw [phase] at paced
    obtain ⟨first, count, whole, rfl, rings, short⟩ := paced
    have inTime := timer (Duration.ring wake) (by rw [phase])
    have ahead := margin.lt_recordedLease short
    rw [Duration.ring_add_of_dvd whole]
    omega
  | idle | acquiring | pausing | stopping | releasing | done =>
    simp [phase, Phase.limit] at limited

end Punctual

/-- Contests are timely and punctual where the lock answers at once and there is a margin. -/
theorem Reachable.punctual
    (reachable : Reachable electorate answersAtOnce contest)
    (shared : electorate.Shares timing)
    (accepted : timing.check = .ok ())
    (margin : timing.HasMargin) :
    contest.Timely electorate 0 ∧ contest.Punctual electorate := by
  have quick : 0 < timing.recordedLease.nanos :=
    Nat.mul_pos (Timing.lease_in_range accepted).1 (by decide)
  obtain ⟨found, steps⟩ := reachable
  induction steps with
  | refl => exact ⟨.initial electorate 0 found, .initial electorate found⟩
  | @tail contest following steps step both =>
    obtain ⟨timely, punctual⟩ := both
    have patient (moment : Nat) (waits : answersAtOnce contest moment) :
        moment = contest.now ∨ answersWithin 0 contest moment :=
      waits.imp_right fun answered index call time pending => by simp [answered] at pending
    have ahead := punctual.isAhead timely shared margin (Timing.renew_pos accepted)
    exact ⟨timely.step (Reachable.lawful ⟨found, steps⟩) shared accepted quick ahead patient step,
      punctual.step shared accepted (fun index => (timely index).timer) step⟩

/-- No two candidates work at once where the lock answers at once and there is a margin. -/
theorem Reachable.exclusive_of_hasMargin
    (reachable : Reachable electorate answersAtOnce contest)
    (shared : electorate.Shares timing)
    (accepted : timing.check = .ok ())
    (margin : timing.HasMargin) :
    contest.Exclusive :=
  (reachable.punctual shared accepted margin).1.exclusive reachable.lawful

/-! ## Without a margin -/

section Overlap

variable (timing : Timing) (clock : Timestamp)

/-- The holder works on after so many attempts to renew failed, one at each step of the pace. -/
def holderFailing : Nat → Seat
  | 0 => holderResting timing clock 0
  | count + 1 =>
    { candidacy :=
        ⟨.retrying ((count + 1) * timing.pace + timing.retry.nanos)
          (timing.pace + timing.renew.nanos), .held, some ⟨firstClaim timing clock, "", 0⟩, false⟩
      pending := none
      isWorking := true }

/-- The holder reads the lock to renew it. -/
def holderRenewing : Seat where
  candidacy :=
    ⟨.renewing (.reading clock) (timing.pace + timing.renew.nanos), .held,
      some ⟨firstClaim timing clock, "", 0⟩, false⟩
  pending := some ⟨.get, none⟩
  isWorking := true

/-- The rival found the holder's record valid so many steps of the pace after it was written. -/
def rivalWaiting (count : Nat) : Seat where
  candidacy :=
    ⟨.pausing (count * timing.pace + timing.retry.nanos), .acquiring,
      some (firstSight timing clock 0), false⟩
  pending := none
  isWorking := false

variable {timing}

theorem ring_attempt (timing : Timing) (count : Nat) :
    Duration.ring (count * timing.pace + timing.retry.nanos) = (count + 1) * timing.pace := by
  have whole : Duration.perMilli ∣ count * timing.pace :=
    Nat.dvd_mul_left_of_dvd (Duration.dvd_ring _) _
  rw [timing.ring_add_retry whole, Nat.add_mul, Nat.one_mul]

@[simp] theorem pending_holderFailing (count : Nat) :
    (holderFailing timing clock count).pending = none := by
  cases count <;> rfl

@[simp] theorem isWorking_holderFailing (count : Nat) :
    (holderFailing timing clock count).isWorking = true := by
  cases count <;> rfl

@[simp] theorem isStopping_holderFailing (count : Nat) :
    (holderFailing timing clock count).isStopping = false := by
  cases count <;> rfl

theorem timer?_holderFailing (count : Nat) :
    (holderFailing timing clock count).candidacy.timer? = some ((count + 1) * timing.pace) := by
  rw [← ring_attempt]
  cases count with
  | zero => simp [holderFailing, holderResting, Candidacy.timer?]
  | succ count => rfl

theorem after_holderFailing (count : Nat) :
    (holderFailing timing clock count).after ((duel timing).candidate false)
        ⟨(count + 1) * timing.pace, clock⟩ .tick =
      holderRenewing timing clock := by
  have due := Nat.le_of_eq (ring_attempt timing count)
  cases count with
  | zero =>
    rw [Nat.zero_mul] at due
    refine (Seat.after_resting _ due).trans ?_
    simp [holderRenewing, Attempt.begin, Electorate.candidate, duel]
  | succ count => exact Seat.after_retrying _ due

/-- The holder fails to renew, and there is time for another attempt. -/
theorem after_holderRenewing
    {count : Nat}
    (fault : Fault)
    (short : (count + 1) * timing.pace < timing.stamina) :
    Seat.after ((duel timing).candidate false) ⟨(count + 1) * timing.pace, clock⟩
        (.reply (.got (.error fault))) { holderRenewing timing clock with pending := none } =
      holderFailing timing clock (count + 1) := by
  have atLeast := timing.retry_le_pace
  have early : ¬ timing.pace + timing.renew.nanos ≤
      (count + 1) * timing.pace + timing.retry.nanos := by
    unfold Timing.stamina at short
    omega
  simp [Seat.after, Seat.actions, holderRenewing, holderFailing, Candidacy.step,
    Candidacy.onReply, Attempt.answer, Candidacy.miss, Candidacy.enter, Electorate.candidate, duel,
    early]

/-- Time passes until the next attempts. -/
theorem runs_to_attempts (postings : List Posting) (count : Nat) :
    Runs timing answersAtOnce
      (ofPair (count * timing.pace) postings (holderFailing timing clock count)
        (rivalWaiting timing clock count))
      (ofPair ((count + 1) * timing.pace) postings (holderFailing timing clock count)
        (rivalWaiting timing clock count)) := by
  refine .single (.wait _ _ (Nat.mul_le_mul_right _ (Nat.le_succ count)) ?_ ?_ (.inr ?_))
  all_goals rintro (_ | _)
  · rintro time rings
    have set := (timer?_holderFailing clock count).symm.trans rings
    exact Nat.le_of_eq (Option.some.inj set)
  · rintro _ ⟨⟩
    exact Nat.le_of_eq (ring_attempt timing count).symm
  · exact isStopping_holderFailing clock count
  · rfl
  · exact pending_holderFailing clock count
  · rfl

/-- The holder fails to renew, and the rival finds its record valid. -/
theorem runs_to_failures
    {count : Nat}
    (accepted : timing.check = .ok ())
    (short : (count + 1) * timing.pace < timing.stamina)
    (valid : (count + 1) * timing.pace < timing.recordedLease.nanos) :
    Runs timing answersAtOnce
      (ofPair ((count + 1) * timing.pace) [⟨firstClaim timing clock, "1", 0⟩]
        (holderFailing timing clock count) (rivalWaiting timing clock count))
      (ofPair ((count + 1) * timing.pace) [⟨firstClaim timing clock, "1", 0⟩]
        (holderFailing timing clock (count + 1)) (rivalWaiting timing clock (count + 1))) := by
  let fault : Fault := .lockConflict "lock"
  have seen : Attempt.observe (some (firstSight timing clock 0))
      ⟨firstClaim timing clock, "1"⟩ ((count + 1) * timing.pace) = firstSight timing clock 0 := by
    simp [Attempt.observe, firstSight]
  have taken : Attempt.isTaken ((duel timing).candidate true)
      (Attempt.observe (some (firstSight timing clock 0)) ⟨firstClaim timing clock, "1"⟩
        ((count + 1) * timing.pace)) ((count + 1) * timing.pace) = true := by
    rw [seen, isTaken_firstSight clock 0 accepted]
    simpa using valid
  have fails : Runs timing answersAtOnce
      (ofPair ((count + 1) * timing.pace) [⟨firstClaim timing clock, "1", 0⟩]
        (holderFailing timing clock count) (rivalWaiting timing clock count))
      (ofPair ((count + 1) * timing.pace) [⟨firstClaim timing clock, "1", 0⟩]
        (holderFailing timing clock (count + 1)) (rivalWaiting timing clock count)) := by
    refine (runs_tick_holder clock (pending_holderFailing clock count)
      (after_holderFailing clock count)).trans ?_
    refine (runs_serve_holder rfl (.refuse _ .get fault)).trans ?_
    exact runs_answer_holder clock rfl (after_holderRenewing clock fault short)
  refine fails.trans ?_
  refine (runs_tick_rival clock rfl
    (Seat.after_pausing _ (Nat.le_of_eq (ring_attempt timing count)))).trans ?_
  refine (runs_serve_rival rfl (.read _)).trans ?_
  refine runs_answer_rival clock rfl ?_
  exact (Seat.after_taken ⟨(count + 1) * timing.pace, clock⟩ taken).trans (by rw [seen]; rfl)

/-- The holder works on as long as there is time for another attempt. -/
theorem reachable_failing
    (accepted : timing.check = .ok ())
    (count : Nat)
    (short : count * timing.pace < timing.stamina)
    (valid : count * timing.pace < timing.recordedLease.nanos) :
    Contest.Reachable (duel timing) answersAtOnce
      (ofPair (count * timing.pace) [⟨firstClaim timing clock, "1", 0⟩]
        (holderFailing timing clock count) (rivalWaiting timing clock count)) := by
  induction count with
  | zero =>
    have pauses : rivalWaiting timing clock 0 = rivalPausing timing clock 0 := by
      simp [rivalWaiting, rivalPausing]
    refine ⟨none, ?_⟩
    rw [initial_eq_ofPair, pauses, Nat.zero_mul]
    exact (runs_to_first_sight answersAtOnce clock 0 accepted).trans
      (runs_answer_holder clock rfl rfl)
  | succ count inductionHypothesis =>
    have less : count * timing.pace ≤ (count + 1) * timing.pace :=
      Nat.mul_le_mul_right _ (Nat.le_succ count)
    obtain ⟨found, steps⟩ := inductionHypothesis (Nat.lt_of_le_of_lt less short)
      (Nat.lt_of_le_of_lt less valid)
    exact ⟨found, steps.trans ((runs_to_attempts clock _ count).trans
      (runs_to_failures clock accepted short valid))⟩

/-- Two candidates work at once if there is no margin, although the lock answers at once. -/
theorem exists_overlap_at_once
    (timing : Timing)
    (accepted : timing.check = .ok ())
    (tight : ¬ timing.HasMargin) :
    ∃ contest : Contest Bool,
      contest.Reachable (duel timing) answersAtOnce ∧ ¬ contest.Exclusive := by
  have positive : 0 < timing.recordedLease.nanos :=
    Nat.mul_pos (Timing.lease_in_range accepted).1 (by decide)
  -- The rival takes over with the first attempt that does not come before the end of the lease.
  obtain ⟨count, valid, expired⟩ : ∃ count, count * timing.pace < timing.recordedLease.nanos ∧
      timing.recordedLease.nanos ≤ (count + 1) * timing.pace := by
    obtain ⟨_ | count, enough, least⟩ :=
      Timing.exists_mul_between (Timing.pace_pos accepted) timing.recordedLease.nanos
    · omega
    · rw [Nat.add_mul, Nat.one_mul] at least
      exact ⟨count, by omega, enough⟩
  have short : count * timing.pace < timing.stamina := by
    by_contra enough
    exact tight ⟨count, Nat.le_of_not_lt enough, valid⟩
  obtain ⟨found, fails⟩ := reachable_failing default accepted count short valid
  have asks : Runs timing answersAtOnce
      (ofPair ((count + 1) * timing.pace) [⟨firstClaim timing default, "1", 0⟩]
        (holderFailing timing default count) (rivalWaiting timing default count))
      (ofPair ((count + 1) * timing.pace) [⟨firstClaim timing default, "1", 0⟩]
        (holderFailing timing default count) (rivalAsking timing default 0)) :=
    runs_tick_rival default rfl (Seat.after_pausing _ (Nat.le_of_eq (ring_attempt timing count)))
  obtain ⟨postings, rival, takes, turns⟩ :=
    runs_to_takeover answersAtOnce default 0 accepted (holderFailing timing default count)
      (by omega : 0 + timing.recordedLease.nanos ≤ (count + 1) * timing.pace)
  refine ⟨_, ⟨found, fails.trans ((runs_to_attempts default _ count).trans
    (asks.trans turns))⟩, ?_⟩
  intro exclusive
  exact absurd (exclusive false true (isWorking_holderFailing default count) takes) (by decide)

end Overlap

/-- Where the lock answers at once, no two candidates work at once, whatever their number and the
order of their steps, exactly if there is a margin. There is one if the time between attempts is a
number of whole milliseconds and the whole seconds of the lease cover a renewal and the rest before
it. -/
theorem exclusive_at_once_iff_hasMargin
    (timing : Timing)
    (accepted : timing.check = .ok ()) :
    ((∀ (ι : Type) [DecidableEq ι] (electorate : Electorate ι), electorate.Shares timing →
      ∀ contest : Contest ι, contest.Reachable electorate answersAtOnce → contest.Exclusive) ↔
        timing.HasMargin) ∧
      (Duration.perMilli ∣ timing.retry.nanos →
        timing.renew.nanos + timing.retry.nanos ≤ timing.recordedLease.nanos →
          timing.HasMargin) := by
  refine ⟨⟨fun exclusive => ?_, fun margin => ?_⟩, Timing.hasMargin_of_dvd accepted⟩
  · by_contra tight
    obtain ⟨contest, reachable, overlap⟩ := exists_overlap_at_once timing accepted tight
    exact overlap (exclusive Bool (duel timing) (fun _ => rfl) contest reachable)
  · intro ι _ electorate shared contest reachable
    exact reachable.exclusive_of_hasMargin shared accepted margin

/-- The standard settings have a margin: in a contest of two candidates, the holder of which works
while its rival saw its record, no two work at once. -/
theorem exclusive_with_standard_timing :
    Timing.standard.check = .ok () ∧ Timing.standard.HasMargin ∧
      ∃ contest : Contest Bool, contest.Reachable (duel .standard) answersAtOnce ∧
        (contest.seats false).isWorking ∧ contest.Exclusive := by
  have accepted : Timing.standard.check = .ok () := rfl
  obtain ⟨exclusive, covered⟩ := exclusive_at_once_iff_hasMargin .standard accepted
  have margin : Timing.standard.HasMargin := covered (by decide) (by decide)
  have reachable := reachable_failing default accepted 0 (by decide)
    (by decide)
  exact ⟨accepted, margin, _, reachable, rfl,
    exclusive.mpr margin Bool (duel .standard) (fun _ => rfl) _ reachable⟩

/-- With a lease of a second, renewals of 999.9 milliseconds and attempts every tenth of a
millisecond, the lease covers a renewal and the rest before it. But the timers for the rests ring
only every millisecond, so that the holder gives up after the rival took over. -/
theorem overlap_of_late_timers :
    let timing : Timing := ⟨.ofSeconds 1, ⟨999900000⟩, ⟨100000⟩, .ofSeconds 10⟩
    timing.check = .ok () ∧
      timing.renew.nanos + timing.retry.nanos ≤ timing.recordedLease.nanos ∧
      ∃ contest : Contest Bool,
        contest.Reachable (duel timing) answersAtOnce ∧ ¬ contest.Exclusive := by
  intro timing
  have accepted : timing.check = .ok () := by decide +kernel
  have stamina : timing.stamina = 1000800000 := by decide
  have pace : timing.pace = 1000000 := by decide
  have lease : timing.recordedLease.nanos = 1000000000 := by decide
  refine ⟨accepted, by decide, exists_overlap_at_once timing accepted ?_⟩
  rintro ⟨count, enough, inTime⟩
  rw [stamina, pace] at enough
  rw [pace, lease] at inTime
  omega

end Contest

end VolumeAttacher
