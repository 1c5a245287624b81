import VolumeAttacher.Proofs.Election.Overlap

/-!
# Takeovers

A record of somebody else is replaced only after it expired, whatever the settings of the candidates
and however late they, their timers and their work are. The times that count are those at which the
lock took up the one record and then the other, although the candidate judges by the moment at which
it first saw the record.
-/

namespace VolumeAttacher

namespace LockServes

variable {time : Nat} {postings postings' : List Posting} {call : LockCall} {reply : LockReply}

/-- A lock stays as it is, or takes up one record. -/
theorem eq_or_eq_cons (serves : LockServes time postings call postings' reply) :
    postings' = postings ∨ ∃ posted, postings' = posted :: postings := by
  cases serves with
  | read | refuse => exact .inl rfl
  | create | update => exact .inr ⟨_, rfl⟩

/-- A record is replaced by an update of its version. -/
theorem eq_update_of_replaced
    {posted replaced : Posting}
    {earlier : List Posting}
    (serves : LockServes time (replaced :: earlier) call (posted :: replaced :: earlier) reply) :
    call = .update posted.record replaced.version ∧ posted.time = time := by
  cases serves with
  | update current earlier record version result fresh => exact ⟨rfl, rfl⟩

end LockServes

/-- A candidate that may replace a record of somebody else does so with its own claim and after the
record expired. -/
theorem LockCall.Entitled.expired
    {candidate : Candidate}
    {now : Nat}
    {replaced : Posting}
    {earlier : List Posting}
    {record : Record}
    (entitled : (LockCall.update record replaced.version).Entitled candidate now
      (replaced :: earlier))
    (fresh : ((replaced :: earlier).map Posting.version).Nodup)
    (held : replaced.record.isHeld)
    (foreign : replaced.record.holder ≠ candidate.identity) :
    record.IsClaimOf candidate ∧
      replaced.time + (Attempt.validity candidate replaced.record).nanos ≤ now := by
  obtain ⟨posting, present, same, yields, written⟩ := entitled
  obtain rfl : posting = replaced :=
    List.inj_on_of_nodup_map fresh present List.mem_cons_self same
  constructor
  · obtain claim | ⟨-, own⟩ := written
    · exact claim
    · exact absurd own foreign
  · obtain free | own | expired := yields
    · simp [Record.isHeld, free] at held
    · exact absurd own foreign
    · exact expired

namespace Contest

variable {ι : Type} [DecidableEq ι] {electorate : Electorate ι} {patience : Patience ι}
  {contest following : Contest ι}

/-- One step of a contest in which nobody has to be in time: timers may ring late, and work that is
told to stop may go on. -/
inductive LooseStep (electorate : Electorate ι) : Contest ι → Contest ι → Prop
  | prompt {contest following : Contest ι} (patience : Patience ι)
      (step : Step electorate patience contest following) :
    LooseStep electorate contest following
  | dawdle (contest : Contest ι) (moment : Nat) (later : contest.now ≤ moment) :
    LooseStep electorate contest { contest with now := moment }

/-- The contests that come about where nobody has to be in time. -/
def LooselyReachable (electorate : Electorate ι) (contest : Contest ι) : Prop :=
  ∃ found, Relation.ReflTransGen (LooseStep electorate) (initial found) contest

/-- The lock accepts a record of a candidate, which may have given up the call. -/
inductive Writes (contest : Contest ι) (writer : ι) (posted : Posting) : Contest ι → Prop
  | pending (call : LockCall) (reply : LockReply)
      (pending : (contest.seats writer).pending = some ⟨call, none⟩)
      (serves :
        LockServes contest.now contest.postings call (posted :: contest.postings) reply) :
    Writes contest writer posted
      { contest.seated writer
          { contest.seats writer with pending := some ⟨call, some (reply, contest.now)⟩ } with
        postings := posted :: contest.postings }
  | abandoned (call : LockCall) (reply : LockReply)
      (abandoned : (writer, call) ∈ contest.abandoned)
      (serves :
        LockServes contest.now contest.postings call (posted :: contest.postings) reply) :
    Writes contest writer posted { contest with postings := posted :: contest.postings }

/-- A write is a step of the contest. -/
theorem Writes.step
    {writer : ι}
    {posted : Posting}
    (writes : contest.Writes writer posted following) :
    Step electorate patience contest following := by
  cases writes with
  | pending call reply pending serves => exact .serve contest writer call _ reply pending serves
  | abandoned call reply abandoned serves =>
    exact .serveAbandoned contest writer call _ reply abandoned serves

/-- A step that changes what the lock holds is a write. -/
theorem LooseStep.postings_eq_or_writes (step : LooseStep electorate contest following) :
    following.postings = contest.postings ∨
      ∃ writer posted, contest.Writes writer posted following := by
  cases step with
  | dawdle => exact .inl rfl
  | prompt patience step =>
    cases step with
    | start | tick | shutDown | workEnds | answer | fail | crash | wait => exact .inl rfl
    | serve index call postings reply pending serves =>
      obtain rfl | ⟨posted, rfl⟩ := serves.eq_or_eq_cons
      · exact .inl rfl
      · exact .inr ⟨index, posted, .pending call reply pending serves⟩
    | serveAbandoned index call postings reply abandoned serves =>
      obtain rfl | ⟨posted, rfl⟩ := serves.eq_or_eq_cons
      · exact .inl rfl
      · exact .inr ⟨index, posted, .abandoned call reply abandoned serves⟩

/-- A candidate is entitled to every write that the lock accepts from it. -/
theorem Writes.entitled
    {writer : ι}
    {posted : Posting}
    (writes : contest.Writes writer posted following)
    (lawful : contest.Lawful electorate) :
    ∃ call reply, call.Entitled (electorate.candidate writer) contest.now contest.postings ∧
      LockServes contest.now contest.postings call (posted :: contest.postings) reply := by
  cases writes with
  | pending call reply pending serves =>
    exact ⟨call, reply, (lawful.seats writer).entitled _ pending, serves⟩
  | abandoned call reply abandoned serves =>
    exact ⟨call, reply, lawful.abandoned writer call abandoned, serves⟩

/-- Every loose step of a lawful contest leads to a lawful one. -/
theorem Lawful.looseStep
    (lawful : contest.Lawful electorate)
    (step : LooseStep electorate contest following) :
    following.Lawful electorate := by
  cases step with
  | prompt patience step => exact lawful.step step
  | dawdle moment later => exact lawful.later later

/-- Contests are lawful even if nobody has to be in time. -/
theorem LooselyReachable.lawful (reachable : contest.LooselyReachable electorate) :
    contest.Lawful electorate := by
  obtain ⟨found, steps⟩ := reachable
  induction steps with
  | refl => exact .initial electorate found
  | tail _ step lawful => exact lawful.looseStep step

/-- A candidate's write that replaces a record of somebody else is its claim, and comes at least as
long after that record as the record is valid. -/
theorem LooselyReachable.expired_of_replaced
    {writer : ι}
    {posted replaced : Posting}
    {earlier : List Posting}
    (reachable : contest.LooselyReachable electorate)
    (writes : contest.Writes writer posted following)
    (present : contest.postings = replaced :: earlier)
    (held : replaced.record.isHeld)
    (foreign : replaced.record.holder ≠ electorate.identity writer) :
    posted.record.IsClaimOf (electorate.candidate writer) ∧
      replaced.time + (Attempt.validity (electorate.candidate writer) replaced.record).nanos ≤
        posted.time := by
  have lawful := reachable.lawful
  obtain ⟨call, reply, entitled, serves⟩ := writes.entitled lawful
  have fresh := lawful.fresh
  rw [present] at entitled serves fresh
  obtain ⟨rfl, time⟩ := serves.eq_update_of_replaced
  rw [time]
  exact entitled.expired fresh held foreign

/-! ## A takeover -/

section OfPair

variable {timing : Timing}

theorem LooselyReachable.tail
    (reachable : contest.LooselyReachable electorate)
    (step : LooseStep electorate contest following) :
    following.LooselyReachable electorate := by
  obtain ⟨found, steps⟩ := reachable
  exact ⟨found, steps.tail step⟩

/-- Steps of two candidates, as ones in which nobody has to be in time. -/
theorem LooselyReachable.runs
    {contest following : Contest Bool}
    (reachable : contest.LooselyReachable (duel timing))
    (runs : Runs timing (fun _ _ => True) contest following) :
    following.LooselyReachable (duel timing) := by
  induction runs with
  | refl => exact reachable
  | tail _ step reached => exact reached.tail (.prompt _ step)

/-- The rival, whose timer rings when the lease is over and not before, goes for the lock of a
holder that did not hear yet that it got it. -/
theorem looselyReachable_rivalUpdating
    (timing : Timing)
    (accepted : timing.check = .ok ()) :
    let late := Duration.ring timing.retry.nanos + timing.recordedLease.nanos
    LooselyReachable (duel timing)
      (ofPair late [⟨firstClaim timing default, "1", 0⟩] (holderAwaiting timing default 0)
        (rivalUpdating timing default 0)) := by
  intro late
  have initial : LooselyReachable (duel timing) (initial none) := ⟨none, .refl⟩
  rw [initial_eq_ofPair] at initial
  have sight := initial.runs (runs_to_first_sight _ default 0 accepted)
  have waits := sight.tail (.dawdle _ late (Nat.zero_le _))
  have due : Duration.ring (0 + timing.retry.nanos) ≤ late := by
    rw [Nat.zero_add]
    exact Nat.le_add_right ..
  have asks : LooselyReachable (duel timing)
      (ofPair late [⟨firstClaim timing default, "1", 0⟩] (holderAwaiting timing default 0)
        (rivalAsking timing default 0)) :=
    waits.runs (runs_tick_rival default rfl (Seat.after_pausing _ due))
  exact asks.runs (runs_to_update _ default 0 accepted _ (by omega))

end OfPair

/-- With the standard settings a record of 15 seconds is replaced after 20 by a candidate whose
timer rang late, while its holder does not even know yet that it got the lock. -/
theorem replaced_after_lease :
    let rival := (duel .standard).candidate true
    let contest := ofPair (Duration.ofSeconds 20).nanos [⟨firstClaim .standard default, "1", 0⟩]
      (holderAwaiting .standard default 0) (rivalUpdating .standard default 0)
    let posted : Posting := ⟨Attempt.succeed rival default (firstClaim .standard default), "2",
      (Duration.ofSeconds 20).nanos⟩
    contest.LooselyReachable (duel .standard) ∧
      (∃ following, contest.Writes true posted following) ∧
      posted.record.IsClaimOf rival ∧
      0 + (Attempt.validity rival (firstClaim .standard default)).nanos ≤ posted.time := by
  intro rival contest posted
  have reachable : contest.LooselyReachable (duel .standard) :=
    looselyReachable_rivalUpdating .standard rfl
  have unused : "2" ∉ contest.postings.map Posting.version := by simp [contest, ofPair]
  have serves : LockServes contest.now contest.postings
      (.update posted.record "1") (posted :: contest.postings) (.written (.ok ())) :=
    .update ⟨firstClaim .standard default, "1", 0⟩ [] posted.record "2" (.ok ()) unused
  have writes : contest.Writes true posted _ := .pending _ _ rfl serves
  exact ⟨reachable, ⟨_, writes⟩,
    reachable.expired_of_replaced writes rfl (by decide) (by decide)⟩

end Contest

end VolumeAttacher
