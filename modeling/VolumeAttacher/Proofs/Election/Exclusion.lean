import Mathlib.Data.List.Nodup
import Mathlib.Tactic.SplitIfs
import VolumeAttacher.Proofs.Election.Lawfulness

/-!
# Exclusion

When no two candidates work at once. A candidate that got the lock works on for as long as it rests
between two renewals and tries to renew it, counted from the answer to its last write and in timers
that ring at whole milliseconds. Others count the lease from the write itself, and only in the whole
seconds that a record holds. So the time between attempts, the time for a renewal, both as late as
their timers may ring, and the latency of an answer together have to stay below the whole seconds of
the lease.
-/

namespace VolumeAttacher

namespace Timing

/-- The lease in the whole seconds that a record holds. -/
def recordedLease (timing : Timing) : Duration :=
  .ofSeconds timing.lease.seconds

/-- How long a candidate that hears nothing any more works on after a write at most, if the answer to
the write is not older than the lag. The timer for the rest may ring almost a millisecond late, and
from then on the renewal takes whole milliseconds. -/
def stint (timing : Timing) (lag : Nat) : Nat :=
  timing.retry.nanos + (Duration.perMilli - 1) + Duration.ring timing.renew.nanos + lag

/-- A candidate stops before its record expires, if the answers to its writes are not older than the
lag. -/
def StopsInTime (timing : Timing) (lag : Nat) : Prop :=
  timing.stint lag < timing.recordedLease.nanos

instance (timing : Timing) (lag : Nat) : Decidable (timing.StopsInTime lag) :=
  inferInstanceAs (Decidable (_ < _))

theorem lease_in_range {timing : Timing} (accepted : timing.check = .ok ()) :
    0 < timing.lease.seconds ∧ timing.lease.seconds ≤ greatestSeconds := by
  by_contra outside
  have outOfRange : timing.isLeaseOutOfRange = true := by
    simp only [isLeaseOutOfRange, Bool.or_eq_true, decide_eq_true_eq]
    omega
  simp only [check, outOfRange] at accepted
  split_ifs at accepted

end Timing

/-- The seconds of an accepted lease fit in a record. -/
theorem Record.IsClaimOf.toInt_leaseSeconds
    {record : Record}
    {candidate : Candidate}
    (claim : record.IsClaimOf candidate)
    (accepted : candidate.timing.check = .ok ()) :
    record.leaseSeconds.toInt = candidate.timing.lease.seconds := by
  obtain ⟨-, bounded⟩ := Timing.lease_in_range accepted
  rw [claim.leaseSeconds]
  exact Int32.toInt_ofNat_of_lt (by unfold Timing.greatestSeconds at bounded; omega)

theorem Record.IsClaimOf.leaseDuration
    {record : Record}
    {candidate : Candidate}
    (claim : record.IsClaimOf candidate)
    (accepted : candidate.timing.check = .ok ()) :
    record.leaseDuration = some candidate.timing.recordedLease := by
  obtain ⟨positive, -⟩ := Timing.lease_in_range accepted
  simp [Record.leaseDuration, claim.toInt_leaseSeconds accepted, positive, Timing.recordedLease]

/-- A claim of accepted settings is valid for the whole seconds of the lease. -/
theorem Record.IsClaimOf.validity
    {record : Record}
    {candidate judge : Candidate}
    (claim : record.IsClaimOf candidate)
    (accepted : candidate.timing.check = .ok ()) :
    Attempt.validity judge record = candidate.timing.recordedLease := by
  simp [Attempt.validity, claim.leaseDuration accepted]

/-- The lock holds a candidate's claim, which is not older than a time. -/
def HeldSince (postings : List Posting) (candidate : Candidate) (time : Nat) : Prop :=
  ∃ posting earlier, postings = posting :: earlier ∧ posting.record.IsClaimOf candidate ∧
    time ≤ posting.time

/-- Only one candidate's claim is held. -/
theorem HeldSince.identity_eq
    {postings : List Posting}
    {first second : Candidate}
    {time other : Nat}
    (one : HeldSince postings first time)
    (two : HeldSince postings second other) :
    first.identity = second.identity := by
  obtain ⟨posting, earlier, rfl, claim, -⟩ := one
  obtain ⟨_, _, ⟨⟩, same, -⟩ := two
  rw [← claim.holder, same.holder]

/-- The time up to which a candidate works if it hears nothing from the lock any more. -/
def Phase.limit (timing : Timing) : Phase → Option Nat
  | .resting wake => some (Duration.ring wake + Duration.ring timing.renew.nanos)
  | .renewing _ deadline | .retrying _ deadline => some (Duration.ring deadline)
  | _ => none

/-- A candidate that works has a limit. -/
theorem Phase.limit_of_isActive
    (phase : Phase)
    (timing : Timing)
    (active : phase.isActive) :
    ∃ limit, phase.limit timing = some limit := by
  cases phase <;> simp_all [Phase.isActive, Phase.limit]

namespace Seat

/-- A candidate is not late, and works no longer than a stint after a write that still stands. -/
structure Timely
    (candidate : Candidate)
    (lag now : Nat)
    (postings : List Posting)
    (seat : Seat) : Prop where
  timer : ∀ time, seat.candidacy.timer? = some time → now ≤ time
  retries : ∀ wake deadline, seat.candidacy.phase = .retrying wake deadline → wake ≤ deadline
  backed : ∀ limit, seat.candidacy.phase.limit candidate.timing = some limit →
    ∃ time, HeldSince postings candidate time ∧ limit ≤ time + candidate.timing.stint lag
  /-- A write of an attempt was accepted, and its answer is on the way. -/
  confirmed : ∀ call time, seat.pending = some ⟨call, some (.written (.ok ()), time)⟩ →
    (∀ release, seat.candidacy.phase ≠ .releasing release) →
      HeldSince postings candidate time ∧ now ≤ time + lag

variable {candidate : Candidate} {lag : Nat} {now : Moment} {postings : List Posting}

/-- A candidate works only up to its limit. -/
theorem Timely.now_le_limit
    {seat : Seat}
    {instant limit : Nat}
    (timely : seat.Timely candidate lag instant postings)
    (limited : seat.candidacy.phase.limit candidate.timing = some limit) :
    instant ≤ limit := by
  have timer := timely.timer
  have retries := timely.retries
  simp only [Candidacy.timer?] at timer
  cases phase : seat.candidacy.phase with
  | resting wake =>
    have punctual := timer (Duration.ring wake) (by rw [phase])
    obtain rfl : Duration.ring wake + Duration.ring candidate.timing.renew.nanos = limit := by
      simpa [phase, Phase.limit] using limited
    omega
  | renewing attempt deadline =>
    obtain rfl : Duration.ring deadline = limit := by simpa [phase, Phase.limit] using limited
    exact timer _ (by rw [phase])
  | retrying wake deadline =>
    have punctual := timer (Duration.ring wake) (by rw [phase])
    have ordered := Duration.ring_mono (retries wake deadline phase)
    obtain rfl : Duration.ring deadline = limit := by simpa [phase, Phase.limit] using limited
    omega
  | idle | acquiring | pausing | stopping | releasing | done =>
    simp [phase, Phase.limit] at limited

/-- A candidate that does not work, and that no answer is on the way to, is only not to be late. -/
theorem timely_of_unlimited
    {seat : Seat}
    {instant : Nat}
    (unlimited : seat.candidacy.phase.limit candidate.timing = none)
    (timer : ∀ time, seat.candidacy.timer? = some time → instant ≤ time)
    (unanswered : ∀ call answer, seat.pending ≠ some ⟨call, some answer⟩) :
    seat.Timely candidate lag instant postings where
  timer := timer
  retries wake deadline phase := by
    rw [phase] at unlimited
    cases unlimited
  backed limit limited := by
    rw [unlimited] at limited
    cases limited
  confirmed call time pending := absurd pending (unanswered call _)

/-- Every turn of a timely seat leads to a timely one. -/
theorem Turn.timely
    {event : ElectionEvent}
    {seat next : Seat}
    (turn : Turn candidate now event seat next)
    (timely : seat.Timely candidate lag now.instant postings)
    (answered : ∀ reply, event = .reply reply → seat.pending = none)
    (confirmed : event = .reply (.written (.ok ())) →
      (∀ release, seat.candidacy.phase ≠ .releasing release) →
        ∃ time, HeldSince postings candidate time ∧ now.instant ≤ time + lag) :
    next.Timely candidate lag now.instant postings := by
  cases turn with
  | stays => exact ⟨timely.timer, timely.retries, timely.backed, timely.confirmed⟩
  | seeks | asks answer | releases | vacates own =>
    exact timely_of_unlimited rfl nofun (by simp)
  | leaves waits passive less =>
    refine ⟨nofun, nofun, nofun, fun call time present _ => timely.confirmed call time present ?_⟩
    rintro release rfl
    cases waits
  | stops waits active =>
    refine ⟨?_, nofun, nofun, fun call time present _ => timely.confirmed call time present ?_⟩
    · rintro _ ⟨⟩
      exact Duration.le_ring_add ..
    · rintro release rfl
      cases waits
  | giveUp answer | collapses answer | breaksDown answer | retires | retiresFree =>
    obtain rfl := answered _ rfl
    exact timely_of_unlimited rfl nofun (by simp)
  | leadsInVain answer | loses answer | pauses answer =>
    obtain rfl := answered _ rfl
    refine timely_of_unlimited rfl ?_ (by simp)
    rintro _ ⟨⟩
    exact Duration.le_ring_add ..
  | breaksOff =>
    refine timely_of_unlimited rfl ?_ (by simp)
    rintro _ ⟨⟩
    exact Duration.le_ring_add ..
  | keepsAsking answer =>
    exact ⟨timely.timer, nofun, timely.backed, nofun⟩
  | leads answer | rests answer =>
    obtain rfl := answered _ rfl
    obtain ⟨_, _, rfl, _⟩ := Attempt.eq_of_answer_ended_true answer
    obtain ⟨time, held, prompt⟩ := confirmed rfl nofun
    have rings := Duration.ring_lt (now.instant + candidate.timing.retry.nanos)
    refine ⟨?_, nofun, ?_, nofun⟩
    · rintro _ ⟨⟩
      exact Duration.le_ring_add ..
    · rintro _ ⟨⟩
      exact ⟨time, held, by unfold Timing.stint; omega⟩
  | misses answer early =>
    obtain rfl := answered _ rfl
    refine ⟨?_, ?_, timely.backed, nofun⟩
    · rintro _ ⟨⟩
      exact Duration.le_ring_add ..
    · rintro _ _ ⟨⟩
      omega
  | @renews wake _ _ _ _ _ _ _ due =>
    have punctual : now.instant = Duration.ring wake := Nat.le_antisymm (timely.timer _ rfl) due
    obtain ⟨time, held, early⟩ := timely.backed _ rfl
    refine ⟨?_, nofun, ?_, nofun⟩
    · rintro _ ⟨⟩
      exact Duration.le_ring_add ..
    · rintro _ ⟨⟩
      refine ⟨time, held, ?_⟩
      rwa [punctual, Duration.ring_add_of_dvd (Duration.dvd_ring wake)]
  | @retries wake deadline _ _ _ _ _ _ _ due =>
    have punctual : now.instant ≤ Duration.ring wake := timely.timer _ rfl
    have ordered := Duration.ring_mono (timely.retries wake deadline rfl)
    refine ⟨?_, nofun, timely.backed, nofun⟩
    rintro _ ⟨⟩
    exact Nat.le_trans punctual ordered

end Seat

/-! ## Writes of others -/

/-- A write that the lock accepts while it holds a candidate's claim renews the claim, or gives the
lock up for a candidate that wanted that, or comes after the claim expired. -/
theorem HeldSince.serves
    {ι : Type}
    {electorate : Electorate ι}
    {timing : Timing}
    {index writer : ι}
    {now time : Nat}
    {postings postings' : List Posting}
    {call : LockCall}
    {reply : LockReply}
    (held : HeldSince postings (electorate.candidate index) time)
    (shared : electorate.Shares timing)
    (accepted : timing.check = .ok ())
    (fresh : (postings.map Posting.version).Nodup)
    (past : ∀ posting ∈ postings, posting.time ≤ now)
    (entitled : call.Entitled (electorate.candidate writer) now postings)
    (serves : LockServes now postings call postings' reply) :
    HeldSince postings' (electorate.candidate index) time ∨
      time + timing.recordedLease.nanos ≤ now ∨
      writer = index ∧ ∃ record, call.record? = some record ∧
        ¬ record.IsClaimOf (electorate.candidate index) := by
  obtain ⟨current, earlier, rfl, claim, since⟩ := held
  cases serves with
  | read | refuse => exact .inl ⟨current, earlier, rfl, claim, since⟩
  | update current earlier record version result unused =>
    obtain ⟨posting, present, same, yields, -⟩ := entitled
    obtain rfl : posting = current :=
      List.inj_on_of_nodup_map fresh present List.mem_cons_self same
    by_cases own : writer = index
    · subst own
      by_cases claims : record.IsClaimOf (electorate.candidate writer)
      · exact .inl ⟨_, _, rfl, claims, Nat.le_trans since (past posting present)⟩
      · exact .inr (.inr ⟨rfl, record, rfl, claims⟩)
    · refine .inr (.inl ?_)
      obtain free | foreign | expired := yields
      · exact absurd (claim.holder.symm.trans free) (electorate.named index)
      · exact absurd (electorate.distinct (foreign.symm.trans claim.holder)) own
      · have same : (electorate.candidate index).timing = timing := shared index
        rw [claim.validity (by rw [same, accepted]), same] at expired
        omega

/-- A claim that the lock accepted is what it holds. -/
theorem LockServes.heldSince
    {candidate : Candidate}
    {time : Nat}
    {postings postings' : List Posting}
    {call : LockCall}
    (serves : LockServes time postings call postings' (.written (.ok ())))
    (claims : ∀ record, call.record? = some record → record.IsClaimOf candidate) :
    HeldSince postings' candidate time := by
  generalize same : LockReply.written (.ok ()) = reply at serves
  cases serves with
  | read => cases same
  | create record version result =>
    exact ⟨_, _, rfl, claims record rfl, Nat.le_refl _⟩
  | update current earlier record version result unused =>
    exact ⟨_, _, rfl, claims record rfl, Nat.le_refl _⟩
  | refuse => cases call <;> simp [LockCall.failure] at same

namespace Contest

variable {ι : Type} [DecidableEq ι] {electorate : Electorate ι} {timing : Timing} {lag : Nat}
  {contest following : Contest ι}

/-- No candidate is late, and none works longer than a stint after a write that still stands. -/
def Timely (electorate : Electorate ι) (lag : Nat) (contest : Contest ι) : Prop :=
  ∀ index, (contest.seats index).Timely (electorate.candidate index) lag contest.now
    contest.postings

/-- Nobody works until a lease is over that began a stint before its limit. -/
def IsAhead (electorate : Electorate ι) (timing : Timing) (lag : Nat) (contest : Contest ι) :
    Prop :=
  ∀ index limit,
    (contest.seats index).candidacy.phase.limit (electorate.candidate index).timing = some limit →
      contest.now + timing.stint lag < limit + timing.recordedLease.nanos

namespace Timely

omit [DecidableEq ι] in
theorem initial (electorate : Electorate ι) (lag : Nat) (found : Option Versioned) :
    Timely electorate lag (Contest.initial found) :=
  fun _ => Seat.timely_of_unlimited rfl nofun (by simp [Contest.initial, Seat.vacant])

/-- A candidate takes another seat in a timely contest. -/
theorem seated
    {index : ι}
    {seat : Seat}
    (timely : contest.Timely electorate lag)
    (next : seat.Timely (electorate.candidate index) lag contest.now contest.postings) :
    (contest.seated index seat).Timely electorate lag := by
  intro other
  by_cases own : other = index
  · subst own
    rw [seated_seats_self]
    exact next
  · rw [seated_seats_of_ne _ _ own]
    exact timely other

/-- A candidate's event in a timely contest. -/
theorem deliver
    {index : ι}
    {clock : Timestamp}
    {event : ElectionEvent}
    {seat : Seat}
    (timely : contest.Timely electorate lag)
    (prepared : seat.Timely (electorate.candidate index) lag contest.now contest.postings)
    (answered : ∀ reply, event = .reply reply → seat.pending = none)
    (confirmed : event = .reply (.written (.ok ())) →
      (∀ release, seat.candidacy.phase ≠ .releasing release) →
        ∃ time, HeldSince contest.postings (electorate.candidate index) time ∧
          contest.now ≤ time + lag) :
    (contest.deliver electorate index clock event seat).Timely electorate lag :=
  timely.seated ((Seat.turn_after _ ⟨contest.now, clock⟩ event seat).timely prepared answered
    confirmed)

omit [DecidableEq ι] in
/-- The lock deals with a call in a timely contest, where nobody works up to the end of its lease. -/
theorem serving
    {writer : ι}
    {call : LockCall}
    {postings : List Posting}
    {reply : LockReply}
    (timely : contest.Timely electorate lag)
    (lawful : contest.Lawful electorate)
    (shared : electorate.Shares timing)
    (accepted : timing.check = .ok ())
    (quick : lag < timing.recordedLease.nanos)
    (ahead : contest.IsAhead electorate timing lag)
    (entitled : call.Entitled (electorate.candidate writer) contest.now contest.postings)
    (resigned : ∀ record, call.record? = some record →
      record.IsClaimOf (electorate.candidate writer) ∨
        (∃ released, (contest.seats writer).candidacy.phase = .releasing (.writing released)) ∨
        (contest.seats writer).candidacy.phase = .done)
    (serves : LockServes contest.now contest.postings call postings reply) :
    Timely electorate lag { contest with postings } := by
  intro index
  have seat := timely index
  have own : (electorate.candidate index).timing = timing := shared index
  have kept {time : Nat} (held : HeldSince contest.postings (electorate.candidate index) time) :=
    held.serves shared accepted lawful.fresh lawful.past entitled serves
  refine ⟨seat.timer, seat.retries, ?_, ?_⟩
  · intro limit limited
    obtain ⟨time, held, early⟩ := seat.backed limit limited
    obtain kept | expired | ⟨rfl, record, writes, foreign⟩ := kept held
    · exact ⟨time, kept, early⟩
    · have left := ahead index limit limited
      rw [own] at early
      omega
    · obtain claim | ⟨released, phase⟩ | phase := resigned record writes
      · exact absurd claim foreign
      · simp [phase, Phase.limit] at limited
      · simp [phase, Phase.limit] at limited
  · intro call' time pending asking
    obtain ⟨held, prompt⟩ := seat.confirmed call' time pending asking
    obtain kept | expired | ⟨rfl, record, writes, foreign⟩ := kept held
    · exact ⟨kept, prompt⟩
    · omega
    · obtain claim | ⟨released, phase⟩ | phase := resigned record writes
      · exact absurd claim foreign
      · exact absurd phase (asking _)
      · have quiet := (lawful.seats writer).pending_eq_none (by rw [phase]; rfl)
        simp [quiet] at pending

/-- The lock answers a pending call in a timely contest. -/
theorem replying
    {index : ι}
    {call : LockCall}
    {reply : LockReply}
    (timely : contest.Timely electorate lag)
    (held : reply = .written (.ok ()) →
      (∀ release, (contest.seats index).candidacy.phase ≠ .releasing release) →
        HeldSince contest.postings (electorate.candidate index) contest.now) :
    (contest.seated index
      { contest.seats index with pending := some ⟨call, some (reply, contest.now)⟩ }).Timely
        electorate lag := by
  have seat := timely index
  refine timely.seated ⟨seat.timer, seat.retries, seat.backed, ?_⟩
  rintro _ _ ⟨⟩ asking
  exact ⟨held rfl asking, Nat.le_add_right _ _⟩

omit [DecidableEq ι] in
/-- Nobody works up to the end of its lease where candidates stop before their records expire. -/
theorem isAhead
    (timely : contest.Timely electorate lag)
    (margin : timing.StopsInTime lag) :
    contest.IsAhead electorate timing lag := by
  intro index limit limited
  have punctual := (timely index).now_le_limit limited
  unfold Timing.StopsInTime at margin
  omega

/-- Every step of a timely contest leads to a timely one, as long as nobody works up to the end of
its lease. -/
theorem step
    {patience : Patience ι}
    (timely : contest.Timely electorate lag)
    (lawful : contest.Lawful electorate)
    (shared : electorate.Shares timing)
    (accepted : timing.check = .ok ())
    (quick : lag < timing.recordedLease.nanos)
    (ahead : contest.IsAhead electorate timing lag)
    (patient : ∀ moment, patience contest moment →
      moment = contest.now ∨ answersWithin lag contest moment)
    (step : Step electorate patience contest following) :
    following.Timely electorate lag := by
  cases step with
  | start index clock | tick index clock | shutDown index clock =>
    exact timely.deliver (timely index) (fun _ told => nomatch told) fun told => nomatch told
  | workEnds index clock ends =>
    have seat := timely index
    exact timely.deliver ⟨seat.timer, seat.retries, seat.backed, seat.confirmed⟩
      (fun _ told => nomatch told) fun told => nomatch told
  | serve index call postings reply pending serves =>
    have seat := lawful.seats index
    have served : Timely electorate lag { contest with postings } :=
      timely.serving lawful shared accepted quick ahead (seat.entitled _ pending)
        (fun record writes => (seat.isClaimOf_of_pending pending writes).imp_right .inl) serves
    apply served.replying
    rintro rfl asking
    apply serves.heldSince
    intro record writes
    apply (seat.isClaimOf_of_pending pending writes).resolve_right
    rintro ⟨released, phase⟩
    exact asking _ phase
  | answer index clock call reply time pending =>
    have seat := timely index
    refine timely.deliver ⟨seat.timer, seat.retries, seat.backed, nofun⟩
      (fun _ _ => rfl) ?_
    rintro ⟨⟩ asking
    exact ⟨time, seat.confirmed call time pending asking⟩
  | fail index clock call fault pending =>
    have seat := timely index
    refine timely.deliver ⟨seat.timer, seat.retries, seat.backed, nofun⟩
      (fun _ _ => rfl) ?_
    cases call <;> nofun
  | serveAbandoned index call postings reply abandoned serves =>
    exact timely.serving lawful shared accepted quick ahead
      (lawful.abandoned index call abandoned)
      (fun record writes => (lawful.resigned index call record abandoned writes).imp_right .inr)
      serves
  | crash index =>
    exact timely.seated (Seat.timely_of_unlimited rfl nofun (by simp [Seat.crashed]))
  | wait moment later timers prompt waits =>
    intro index
    have seat := timely index
    refine ⟨timers index, seat.retries, seat.backed, ?_⟩
    intro call time pending asking
    obtain ⟨held, heard⟩ := seat.confirmed call time pending asking
    obtain rfl | patient := patient moment waits
    · exact ⟨held, heard⟩
    · exact ⟨held, patient index call time pending⟩

end Timely

/-- Contests are timely where candidates stop before their records expire. -/
theorem Reachable.timely
    (reachable : Reachable electorate (answersWithin lag) contest)
    (shared : electorate.Shares timing)
    (accepted : timing.check = .ok ())
    (margin : timing.StopsInTime lag) :
    contest.Timely electorate lag := by
  have quick : lag < timing.recordedLease.nanos := by
    unfold Timing.StopsInTime Timing.stint at margin
    omega
  obtain ⟨found, steps⟩ := reachable
  induction steps with
  | refl => exact .initial electorate lag found
  | tail steps step timely =>
    exact timely.step (Reachable.lawful ⟨found, steps⟩) shared accepted quick
      (timely.isAhead margin) (fun _ => .inr) step

omit [DecidableEq ι] in
/-- No two candidates work at once in a lawful and timely contest: the lock holds the claim of each
that works. -/
theorem Timely.exclusive
    (timely : contest.Timely electorate lag)
    (lawful : contest.Lawful electorate) :
    contest.Exclusive := by
  intro first second firstWorks secondWorks
  have held (index : ι) (works : (contest.seats index).isWorking) :
      ∃ time, HeldSince contest.postings (electorate.candidate index) time := by
    have active := (lawful.seats index).working works
    obtain ⟨limit, limited⟩ := (contest.seats index).candidacy.phase.limit_of_isActive
      (electorate.candidate index).timing active
    obtain ⟨time, held, -⟩ := (timely index).backed limit limited
    exact ⟨time, held⟩
  obtain ⟨_, one⟩ := held first firstWorks
  obtain ⟨_, two⟩ := held second secondWorks
  exact electorate.distinct (one.identity_eq two)

/-- No two candidates work at once if they stop before their records expire. -/
theorem Reachable.exclusive
    (reachable : Reachable electorate (answersWithin lag) contest)
    (shared : electorate.Shares timing)
    (accepted : timing.check = .ok ())
    (margin : timing.StopsInTime lag) :
    contest.Exclusive :=
  (reachable.timely shared accepted margin).exclusive reachable.lawful

end Contest

end VolumeAttacher
