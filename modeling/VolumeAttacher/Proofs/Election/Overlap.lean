import VolumeAttacher.Proofs.Election.Exclusion

/-!
# Overlaps

Two candidates that work at once. Where candidates do not stop before their records expire, one
that got the lock works on while its renewal hangs, and the other one, which saw the record as soon
as it was written, takes the lock over when it expires. The record is written at a time from which
the timer for the holder's rest rings as late as it may.
-/

namespace VolumeAttacher

section Steps

variable {candidate : Candidate} {began : Timestamp} {leadership : Leadership}
  {observed : Option Observation} {current : Versioned} {isWorking : Bool}

namespace Candidacy

/-- A candidate that reads a record that is still valid pauses. -/
theorem step_taken
    (now : Moment)
    (taken : Attempt.isTaken candidate (Attempt.observe observed current now.instant)
      now.instant = true) :
    Candidacy.step candidate now ⟨.acquiring (.reading began), leadership, observed, false⟩
        (.reply (.got (.ok (some current)))) =
      (⟨.pausing (now.instant + candidate.timing.retry.nanos), leadership,
        some (Attempt.observe observed current now.instant), false⟩, []) := by
  have answer : (Attempt.reading began).answer candidate observed now
      (.got (.ok (some current))) =
        (some (Attempt.observe observed current now.instant), .ended false) := by
    simp [Attempt.answer, taken]
  simp [step, onReply, answer, pause, enter]

/-- A candidate that reads a record that is not valid any more asks to replace it. -/
theorem step_free
    (now : Moment)
    (free : Attempt.isTaken candidate (Attempt.observe observed current now.instant)
      now.instant = false)
    (fits : Attempt.overflows candidate current.record = false) :
    Candidacy.step candidate now ⟨.acquiring (.reading began), leadership, observed, false⟩
        (.reply (.got (.ok (some current)))) =
      (⟨.acquiring (.updating (Attempt.succeed candidate began current.record)), leadership,
          some (Attempt.observe observed current now.instant), false⟩,
        [.ask (.update (Attempt.succeed candidate began current.record) current.version)]) := by
  have answer : (Attempt.reading began).answer candidate observed now
      (.got (.ok (some current))) =
        (some (Attempt.observe observed current now.instant),
          .ask (.updating (Attempt.succeed candidate began current.record))
            (.update (Attempt.succeed candidate began current.record) current.version)) := by
    simp [Attempt.answer, free, fits]
  simp [step, onReply, answer, after, enter]

/-- A candidate that waited long enough reads the lock. -/
theorem step_pausing
    {wake : Nat}
    {shutDown : Bool}
    (now : Moment)
    (due : Duration.ring wake ≤ now.instant) :
    Candidacy.step candidate now ⟨.pausing wake, leadership, observed, shutDown⟩ .tick =
      (⟨.acquiring (.begin now), leadership, observed, shutDown⟩, [.ask .get]) := by
  simp [step, timer?, due, onTimer, tryAcquire, after, enter]

end Candidacy

namespace Seat

/-- The seat of a candidate that reads a record that is still valid. -/
theorem after_taken
    (now : Moment)
    (taken : Attempt.isTaken candidate (Attempt.observe observed current now.instant)
      now.instant = true) :
    Seat.after candidate now (.reply (.got (.ok (some current))))
        ⟨⟨.acquiring (.reading began), leadership, observed, false⟩, none, isWorking⟩ =
      ⟨⟨.pausing (now.instant + candidate.timing.retry.nanos), leadership,
        some (Attempt.observe observed current now.instant), false⟩, none, isWorking⟩ := by
  simp [after, actions, Candidacy.step_taken now taken]

/-- The seat of a candidate that reads a record that is not valid any more. -/
theorem after_free
    (now : Moment)
    (free : Attempt.isTaken candidate (Attempt.observe observed current now.instant)
      now.instant = false)
    (fits : Attempt.overflows candidate current.record = false) :
    Seat.after candidate now (.reply (.got (.ok (some current))))
        ⟨⟨.acquiring (.reading began), leadership, observed, false⟩, none, isWorking⟩ =
      ⟨⟨.acquiring (.updating (Attempt.succeed candidate began current.record)), leadership,
          some (Attempt.observe observed current now.instant), false⟩,
        some ⟨.update (Attempt.succeed candidate began current.record) current.version, none⟩,
        isWorking⟩ := by
  simp [after, actions, Candidacy.step_free now free fits, act]

/-- The seat of a candidate that waited long enough. -/
theorem after_pausing
    {wake : Nat}
    {shutDown : Bool}
    (now : Moment)
    (due : Duration.ring wake ≤ now.instant) :
    Seat.after candidate now .tick
        ⟨⟨.pausing wake, leadership, observed, shutDown⟩, none, isWorking⟩ =
      ⟨⟨.acquiring (.begin now), leadership, observed, shutDown⟩, some ⟨.get, none⟩,
        isWorking⟩ := by
  simp [after, actions, Candidacy.step_pausing now due, act]

/-- A candidate that rested long enough begins to renew. -/
theorem after_resting
    {wake : Nat}
    {shutDown : Bool}
    (now : Moment)
    (due : Duration.ring wake ≤ now.instant) :
    Seat.after candidate now .tick
        ⟨⟨.resting wake, leadership, observed, shutDown⟩, none, isWorking⟩ =
      ⟨⟨.renewing (.begin now) (now.instant + candidate.timing.renew.nanos), leadership, observed,
        shutDown⟩, some ⟨.get, none⟩, isWorking⟩ := by
  simp [after, actions, Candidacy.step, Candidacy.timer?, due, Candidacy.onTimer,
    Candidacy.tryRenew, Candidacy.after, Candidacy.enter, act]

/-- A candidate that waited long enough after a failure tries to renew once more. -/
theorem after_retrying
    {wake deadline : Nat}
    {shutDown : Bool}
    (now : Moment)
    (due : Duration.ring wake ≤ now.instant) :
    Seat.after candidate now .tick
        ⟨⟨.retrying wake deadline, leadership, observed, shutDown⟩, none, isWorking⟩ =
      ⟨⟨.renewing (.begin now) deadline, leadership, observed, shutDown⟩, some ⟨.get, none⟩,
        isWorking⟩ := by
  simp [after, actions, Candidacy.step, Candidacy.timer?, due, Candidacy.onTimer,
    Candidacy.tryRenew, Candidacy.after, Candidacy.enter, act]

end Seat

end Steps

namespace Contest

/-- Two candidates with one timing, a holder and its rival. -/
def duel (timing : Timing) : Electorate Bool where
  identity index := if index then "rival" else "holder"
  timing _ := timing
  distinct first second := by cases first <;> cases second <;> simp
  named index := by cases index <;> simp

/-- A contest of two candidates in which no call was given up. -/
def ofPair (now : Nat) (postings : List Posting) (holder rival : Seat) : Contest Bool where
  now := now
  postings := postings
  seats index := if index then rival else holder
  abandoned := []

section OfPair

variable {timing : Timing} {patience : Patience Bool} {now : Nat} {clock : Timestamp}
  {postings postings' : List Posting} {holder rival seat : Seat} {call : LockCall}
  {reply : LockReply} {time : Nat}

theorem update_holder (seat : Seat) :
    Function.update (fun index => if index = true then rival else holder) false seat =
      fun index => if index = true then rival else seat := by
  funext index
  cases index <;> simp

theorem update_rival (seat : Seat) :
    Function.update (fun index => if index = true then rival else holder) true seat =
      fun index => if index = true then seat else holder := by
  funext index
  cases index <;> simp

theorem deliver_holder {event : ElectionEvent} (quiet : seat.pending = none) :
    (ofPair now postings holder rival).deliver (duel timing) false clock event seat =
      ofPair now postings (seat.after ((duel timing).candidate false) ⟨now, clock⟩ event)
        rival := by
  simp [deliver, ofPair, Contest.seated, update_holder, Seat.givenUp_eq_nil quiet]

theorem deliver_rival {event : ElectionEvent} (quiet : seat.pending = none) :
    (ofPair now postings holder rival).deliver (duel timing) true clock event seat =
      ofPair now postings holder
        (seat.after ((duel timing).candidate true) ⟨now, clock⟩ event) := by
  simp [deliver, ofPair, Contest.seated, update_rival, Seat.givenUp_eq_nil quiet]

/-- The steps of a contest of two candidates. -/
abbrev Runs (timing : Timing) (patience : Patience Bool) : Contest Bool → Contest Bool → Prop :=
  Relation.ReflTransGen (Step (duel timing) patience)

theorem runs_start_holder
    (clock : Timestamp)
    (quiet : holder.pending = none)
    (next : holder.after ((duel timing).candidate false) ⟨now, clock⟩ .start = seat) :
    Runs timing patience (ofPair now postings holder rival) (ofPair now postings seat rival) := by
  rw [← next, ← deliver_holder quiet]
  exact .single (.start _ false clock)

theorem runs_start_rival
    (clock : Timestamp)
    (quiet : rival.pending = none)
    (next : rival.after ((duel timing).candidate true) ⟨now, clock⟩ .start = seat) :
    Runs timing patience (ofPair now postings holder rival) (ofPair now postings holder seat) := by
  rw [← next, ← deliver_rival quiet]
  exact .single (.start _ true clock)

theorem runs_tick_holder
    (clock : Timestamp)
    (quiet : holder.pending = none)
    (next : holder.after ((duel timing).candidate false) ⟨now, clock⟩ .tick = seat) :
    Runs timing patience (ofPair now postings holder rival) (ofPair now postings seat rival) := by
  rw [← next, ← deliver_holder quiet]
  exact .single (.tick _ false clock)

theorem runs_tick_rival
    (clock : Timestamp)
    (quiet : rival.pending = none)
    (next : rival.after ((duel timing).candidate true) ⟨now, clock⟩ .tick = seat) :
    Runs timing patience (ofPair now postings holder rival) (ofPair now postings holder seat) := by
  rw [← next, ← deliver_rival quiet]
  exact .single (.tick _ true clock)

theorem runs_serve_holder
    (pending : holder.pending = some ⟨call, none⟩)
    (serves : LockServes now postings call postings' reply) :
    Runs timing patience (ofPair now postings holder rival)
      (ofPair now postings' { holder with pending := some ⟨call, some (reply, now)⟩ } rival) := by
  have step : Step (duel timing) patience _ _ :=
    .serve (ofPair now postings holder rival) false call postings' reply pending serves
  simpa [Contest.seated, ofPair, update_holder] using Relation.ReflTransGen.single step

theorem runs_serve_rival
    (pending : rival.pending = some ⟨call, none⟩)
    (serves : LockServes now postings call postings' reply) :
    Runs timing patience (ofPair now postings holder rival)
      (ofPair now postings' holder { rival with pending := some ⟨call, some (reply, now)⟩ }) := by
  have step : Step (duel timing) patience _ _ :=
    .serve (ofPair now postings holder rival) true call postings' reply pending serves
  simpa [Contest.seated, ofPair, update_rival] using Relation.ReflTransGen.single step

theorem runs_answer_holder
    (clock : Timestamp)
    (pending : holder.pending = some ⟨call, some (reply, time)⟩)
    (next : Seat.after ((duel timing).candidate false) ⟨now, clock⟩ (.reply reply)
      { holder with pending := none } = seat) :
    Runs timing patience (ofPair now postings holder rival) (ofPair now postings seat rival) := by
  rw [← next, ← deliver_holder rfl]
  exact .single (.answer _ false clock call reply time pending)

theorem runs_answer_rival
    (clock : Timestamp)
    (pending : rival.pending = some ⟨call, some (reply, time)⟩)
    (next : Seat.after ((duel timing).candidate true) ⟨now, clock⟩ (.reply reply)
      { rival with pending := none } = seat) :
    Runs timing patience (ofPair now postings holder rival) (ofPair now postings holder seat) := by
  rw [← next, ← deliver_rival rfl]
  exact .single (.answer _ true clock call reply time pending)

theorem runs_wait
    {lag moment : Nat}
    (later : now ≤ moment)
    (holderTimer : ∀ time, holder.candidacy.timer? = some time → moment ≤ time)
    (rivalTimer : ∀ time, rival.candidacy.timer? = some time → moment ≤ time)
    (holderAnswer : ∀ call time,
      holder.pending = some ⟨call, some (.written (.ok ()), time)⟩ → moment ≤ time + lag)
    (rivalAnswer : ∀ call time,
      rival.pending = some ⟨call, some (.written (.ok ()), time)⟩ → moment ≤ time + lag)
    (prompt : holder.isStopping = false ∧ rival.isStopping = false) :
    Runs timing (answersWithin lag) (ofPair now postings holder rival)
      (ofPair moment postings holder rival) := by
  refine .single (.wait _ moment later ?_ ?_ ?_)
  all_goals rintro (_ | _)
  · exact holderTimer
  · exact rivalTimer
  · exact prompt.1
  · exact prompt.2
  · exact holderAnswer
  · exact rivalAnswer

end OfPair

/-! ## The run -/

theorem initial_eq_ofPair : (initial none : Contest Bool) = ofPair 0 [] .vacant .vacant := by
  simp [initial, ofPair]

variable (timing : Timing) (patience : Patience Bool) (clock : Timestamp) (written : Nat)

/-- The record with which the holder gets the lock. -/
def firstClaim : Record :=
  Attempt.claim ((duel timing).candidate false) clock

/-- The holder wrote its record, and did not hear of it yet. -/
def holderAwaiting : Seat where
  candidacy := ⟨.acquiring (.creating (firstClaim timing clock)), .acquiring, none, false⟩
  pending := some ⟨.create (firstClaim timing clock), some (.written (.ok ()), written)⟩
  isWorking := false

/-- What the rival saw of the holder's record. -/
def firstSight : Observation :=
  ⟨firstClaim timing clock, "1", written⟩

/-- The rival saw the holder's record, and waits for its next attempt. -/
def rivalPausing : Seat where
  candidacy :=
    ⟨.pausing (written + timing.retry.nanos), .acquiring, some (firstSight timing clock written),
      false⟩
  pending := none
  isWorking := false

variable {timing}

/-- The rival takes the holder's record as valid until the lease is over. -/
theorem isTaken_firstSight (accepted : timing.check = .ok ()) (instant : Nat) :
    Attempt.isTaken ((duel timing).candidate true) (firstSight timing clock written) instant =
      !decide (written + timing.recordedLease.nanos ≤ instant) := by
  have validity : Attempt.validity ((duel timing).candidate true) (firstClaim timing clock) =
      timing.recordedLease := (Attempt.claim_isClaimOf _ clock).validity accepted
  have held : (firstClaim timing clock).holder = "holder" := rfl
  have judge : ((duel timing).candidate true).identity = "rival" := rfl
  simp [Attempt.isTaken, Attempt.isExpired, firstSight, Record.isHeld, held, judge, validity]

/-- The holder's record is written, and the rival sees it at once. -/
theorem runs_to_first_sight (accepted : timing.check = .ok ()) :
    Runs timing patience (ofPair written [] .vacant .vacant)
      (ofPair written [⟨firstClaim timing clock, "1", written⟩]
        (holderAwaiting timing clock written) (rivalPausing timing clock written)) := by
  have taken : Attempt.isTaken ((duel timing).candidate true)
      (Attempt.observe none ⟨firstClaim timing clock, "1"⟩ written) written = true := by
    have positive : 0 < timing.recordedLease.nanos :=
      Nat.mul_pos (Timing.lease_in_range accepted).1 (by decide)
    rw [← Bool.not_eq_false]
    intro free
    have expired := (isTaken_firstSight clock written accepted written).symm.trans free
    rw [Bool.not_eq_false', decide_eq_true_iff] at expired
    omega
  refine (runs_start_holder clock rfl rfl).trans ?_
  refine (runs_serve_holder rfl (.read [])).trans ?_
  refine (runs_answer_holder clock rfl rfl).trans ?_
  refine (runs_serve_holder rfl (.create _ "1" (.ok ()))).trans ?_
  refine (runs_start_rival clock rfl rfl).trans ?_
  refine (runs_serve_rival rfl (.read _)).trans ?_
  exact runs_answer_rival clock rfl (Seat.after_taken ⟨written, clock⟩ taken)

/-- The holder works since it heard of its record, and has to renew it after its rest. -/
def holderResting (timing : Timing) (clock : Timestamp) (heard : Nat) : Seat where
  candidacy :=
    ⟨.resting (heard + timing.retry.nanos), .held, some ⟨firstClaim timing clock, "", heard⟩, false⟩
  pending := none
  isWorking := true

/-- The rival asks for the record once more. -/
def rivalAsking (timing : Timing) (clock : Timestamp) (written : Nat) : Seat where
  candidacy :=
    ⟨.acquiring (.reading clock), .acquiring, some (firstSight timing clock written), false⟩
  pending := some ⟨.get, none⟩
  isWorking := false

variable (lag : Nat)

/-- The holder hears of its record, and the rival's pause is over. -/
theorem runs_to_asking
    (postings : List Posting)
    {heard : Nat}
    (later : written ≤ heard)
    (prompt : heard ≤ written + lag) :
    Runs timing (answersWithin lag)
      (ofPair written postings (holderAwaiting timing clock written)
        (rivalPausing timing clock written))
      (ofPair (max heard (Duration.ring (written + timing.retry.nanos))) postings
        (holderResting timing clock heard) (rivalAsking timing clock written)) := by
  obtain early | late := Nat.le_total heard (Duration.ring (written + timing.retry.nanos))
  · rw [Nat.max_eq_right early]
    refine (runs_wait later (by rintro _ ⟨⟩) ?_ ?_ (by rintro _ _ ⟨⟩) ⟨rfl, rfl⟩).trans ?_
    · rintro _ ⟨⟩
      exact early
    · rintro _ _ ⟨⟩
      exact prompt
    refine (runs_answer_holder clock rfl rfl).trans ?_
    refine (runs_wait early ?_ ?_ (by rintro _ _ ⟨⟩) (by rintro _ _ ⟨⟩) ⟨rfl, rfl⟩).trans ?_
    · rintro _ ⟨⟩
      exact Duration.ring_mono (Nat.add_le_add_right later _)
    · rintro _ ⟨⟩
      exact Nat.le_refl _
    exact runs_tick_rival clock rfl (Seat.after_pausing _ (Nat.le_refl _))
  · rw [Nat.max_eq_left late]
    refine (runs_wait (Duration.le_ring_add written timing.retry.nanos) (by rintro _ ⟨⟩) ?_ ?_
      (by rintro _ _ ⟨⟩) ⟨rfl, rfl⟩).trans ?_
    · rintro _ ⟨⟩
      exact Nat.le_refl _
    · rintro _ _ ⟨⟩
      exact Nat.le_trans late prompt
    refine (runs_tick_rival clock rfl (Seat.after_pausing _ (Nat.le_refl _))).trans ?_
    refine (runs_wait late (by rintro _ ⟨⟩) (by rintro _ ⟨⟩) ?_ (by rintro _ _ ⟨⟩)
      ⟨rfl, rfl⟩).trans ?_
    · rintro _ _ ⟨⟩
      exact prompt
    exact runs_answer_holder clock rfl rfl

variable (timing) in
/-- The holder works on until its renewal is given up. -/
theorem runs_to_deadline
    (postings : List Posting)
    {rival : Seat}
    (heard moment : Nat)
    {now : Nat}
    (rivalTimer : rival.candidacy.timer? = none)
    (rivalAsks : rival.pending = some ⟨.get, none⟩)
    (rivalWaits : rival.isStopping = false)
    (early : now ≤ Duration.ring (heard + timing.retry.nanos))
    (later : now ≤ moment)
    (inTime : moment ≤
      Duration.ring (heard + timing.retry.nanos) + Duration.ring timing.renew.nanos) :
    ∃ holder : Seat, holder.isWorking = true ∧
      Runs timing (answersWithin lag)
        (ofPair now postings (holderResting timing clock heard) rival)
        (ofPair moment postings holder rival) := by
  obtain resting | late := Nat.le_total moment (Duration.ring (heard + timing.retry.nanos))
  · refine ⟨_, rfl, runs_wait later ?_ ?_ (by rintro _ _ ⟨⟩) ?_ ⟨rfl, rivalWaits⟩⟩
    · rintro _ ⟨⟩
      exact resting
    · simp [rivalTimer]
    · simp [rivalAsks]
  · refine ⟨_, rfl, (runs_wait early ?_ ?_ (by rintro _ _ ⟨⟩) ?_ ⟨rfl, rivalWaits⟩).trans
      ((runs_tick_holder clock rfl
          (Seat.after_resting ⟨Duration.ring (heard + timing.retry.nanos), clock⟩
            (Nat.le_refl _))).trans
        (runs_wait late ?_ ?_ (by rintro _ _ ⟨⟩) ?_ ⟨rfl, rivalWaits⟩))⟩
    · rintro _ ⟨⟩
      exact Nat.le_refl _
    · simp [rivalTimer]
    · simp [rivalAsks]
    · rintro _ ⟨⟩
      have hangs := Duration.ring_add_of_dvd (Duration.dvd_ring (heard + timing.retry.nanos))
        timing.renew.nanos
      exact hangs ▸ inTime
    · simp [rivalTimer]
    · simp [rivalAsks]

/-- The rival asks to replace the holder's record. -/
def rivalUpdating (timing : Timing) (clock : Timestamp) (written : Nat) : Seat where
  candidacy :=
    ⟨.acquiring (.updating (Attempt.succeed ((duel timing).candidate true) clock
      (firstClaim timing clock))), .acquiring, some (firstSight timing clock written), false⟩
  pending := some ⟨.update (Attempt.succeed ((duel timing).candidate true) clock
    (firstClaim timing clock)) "1", none⟩
  isWorking := false

/-- The rival goes for the lock when the holder's record expired. -/
theorem runs_to_update
    (accepted : timing.check = .ok ())
    (holder : Seat)
    {now : Nat}
    (expired : written + timing.recordedLease.nanos ≤ now) :
    Runs timing patience
      (ofPair now [⟨firstClaim timing clock, "1", written⟩] holder
        (rivalAsking timing clock written))
      (ofPair now [⟨firstClaim timing clock, "1", written⟩] holder
        (rivalUpdating timing clock written)) := by
  have seen : Attempt.observe (some (firstSight timing clock written))
      ⟨firstClaim timing clock, "1"⟩ now = firstSight timing clock written := by
    simp [Attempt.observe, firstSight]
  have free : Attempt.isTaken ((duel timing).candidate true)
      (Attempt.observe (some (firstSight timing clock written)) ⟨firstClaim timing clock, "1"⟩ now)
      now = false := by
    rw [seen, isTaken_firstSight clock written accepted]
    simpa using expired
  have reads : Runs timing patience
      (ofPair now [⟨firstClaim timing clock, "1", written⟩] holder
        (rivalAsking timing clock written)) _ :=
    runs_serve_rival rfl (.read _)
  refine reads.trans (runs_answer_rival clock rfl ?_)
  exact (Seat.after_free ⟨now, clock⟩ free rfl).trans (by rw [seen]; rfl)

/-- The rival takes the lock over when the holder's record expired. -/
theorem runs_to_takeover
    (accepted : timing.check = .ok ())
    (holder : Seat)
    {now : Nat}
    (expired : written + timing.recordedLease.nanos ≤ now) :
    ∃ postings rival, rival.isWorking = true ∧
      Runs timing patience
        (ofPair now [⟨firstClaim timing clock, "1", written⟩] holder
          (rivalAsking timing clock written))
        (ofPair now postings holder rival) := by
  have unused : "2" ∉ [(⟨firstClaim timing clock, "1", written⟩ : Posting)].map
      Posting.version := by
    simp
  have asks := runs_to_update patience clock written accepted holder expired
  have writes := asks.trans (runs_serve_rival rfl (.update _ _ _ "2" (.ok ()) unused))
  exact ⟨_, _, rfl, writes.trans (runs_answer_rival clock rfl rfl)⟩

/-- Two candidates work at once if they do not stop before their records expire. -/
theorem exists_overlap
    (timing : Timing)
    (lag : Nat)
    (accepted : timing.check = .ok ())
    (tight : ¬ timing.StopsInTime lag) :
    ∃ contest : Contest Bool,
      contest.Reachable (duel timing) (answersWithin lag) ∧ ¬ contest.Exclusive := by
  unfold Timing.StopsInTime Timing.stint at tight
  -- The rival takes over as soon as the record expired and its own pause is over. The holder hears
  -- of its record as late as it may before that, and writes it so that its timer is late as well.
  obtain ⟨span, expired, paused, inTime⟩ :
      ∃ span, timing.recordedLease.nanos ≤ span ∧
        timing.retry.nanos + (Duration.perMilli - 1) ≤ span ∧
        span ≤ min lag span + timing.retry.nanos + (Duration.perMilli - 1) +
          Duration.ring timing.renew.nanos :=
    ⟨max timing.recordedLease.nanos (timing.retry.nanos + (Duration.perMilli - 1)),
      by omega, by omega, by omega⟩
  obtain ⟨written, rings⟩ :=
    Duration.exists_latest_ring (min lag span + timing.retry.nanos)
  rw [← Nat.add_assoc] at rings
  have pauses : Duration.ring (written + timing.retry.nanos) ≤ written + span := by
    have soon := Duration.ring_lt (written + timing.retry.nanos)
    omega
  have idles : Contest.Reachable (duel timing) (answersWithin lag)
      (ofPair written [] .vacant .vacant) := by
    refine ⟨none, ?_⟩
    rw [initial_eq_ofPair]
    exact runs_wait (Nat.zero_le _) nofun nofun nofun nofun ⟨rfl, rfl⟩
  obtain ⟨found, idles⟩ := idles
  have sight := idles.trans (runs_to_first_sight (answersWithin lag) default written accepted)
  have asks := sight.trans (runs_to_asking default written lag _ (Nat.le_add_right _ _)
    (Nat.add_le_add_left (Nat.min_le_left lag span) written))
  obtain ⟨holder, holds, works⟩ := runs_to_deadline timing default lag
    [⟨firstClaim timing default, "1", written⟩] (written + min lag span) (written + span)
    (rfl : (rivalAsking timing default written).candidacy.timer? = none) rfl rfl
    (Nat.max_le.mpr ⟨Duration.le_ring_add .., Duration.ring_mono (by omega)⟩)
    (Nat.max_le.mpr ⟨by omega, pauses⟩) (by omega)
  obtain ⟨postings, rival, takes, turns⟩ :=
    runs_to_takeover (answersWithin lag) default written accepted holder
      (Nat.add_le_add_left expired written)
  refine ⟨_, ⟨found, asks.trans (works.trans turns)⟩, ?_⟩
  intro exclusive
  exact absurd (exclusive false true holds takes) (by decide)

/-- No two candidates work at once, whatever their number and the order of their steps, exactly if
they stop before their records expire. -/
theorem exclusive_iff_stopsInTime
    (timing : Timing)
    (lag : Nat)
    (accepted : timing.check = .ok ()) :
    (∀ (ι : Type) [DecidableEq ι] (electorate : Electorate ι), electorate.Shares timing →
      ∀ contest : Contest ι, contest.Reachable electorate (answersWithin lag) →
        contest.Exclusive) ↔
      timing.StopsInTime lag := by
  constructor
  · intro exclusive
    by_contra tight
    obtain ⟨contest, reachable, overlap⟩ := exists_overlap timing lag accepted tight
    exact overlap (exclusive Bool (duel timing) (fun _ => rfl) contest reachable)
  · intro margin ι _ electorate shared contest reachable
    exact reachable.exclusive shared accepted margin

/-- With a lease of 15 seconds, renewals of 8 and attempts every 5, answers may take a second. -/
theorem exclusive_within_a_second :
    (⟨.ofSeconds 15, .ofSeconds 8, .ofSeconds 5, .ofSeconds 10⟩ : Timing).check = .ok () ∧
      ∀ (ι : Type) [DecidableEq ι] (electorate : Electorate ι),
        electorate.Shares ⟨.ofSeconds 15, .ofSeconds 8, .ofSeconds 5, .ofSeconds 10⟩ →
          ∀ contest : Contest ι,
            contest.Reachable electorate (answersWithin Duration.perSecond) → contest.Exclusive :=
  have accepted :
      (⟨.ofSeconds 15, .ofSeconds 8, .ofSeconds 5, .ofSeconds 10⟩ : Timing).check = .ok () := by
    rfl
  ⟨accepted, (exclusive_iff_stopsInTime _ _ accepted).mpr (by decide)⟩

/-- With a lease of 15 seconds, renewals of 14 and attempts every 5, two candidates work at once
although the lock answers at once to every write that it accepts. -/
theorem overlap_of_long_renewal :
    (⟨.ofSeconds 15, .ofSeconds 14, .ofSeconds 5, .ofSeconds 10⟩ : Timing).check = .ok () ∧
      ∃ contest : Contest Bool,
        contest.Reachable (duel ⟨.ofSeconds 15, .ofSeconds 14, .ofSeconds 5, .ofSeconds 10⟩)
          (answersWithin 0) ∧ ¬ contest.Exclusive :=
  have accepted :
      (⟨.ofSeconds 15, .ofSeconds 14, .ofSeconds 5, .ofSeconds 10⟩ : Timing).check = .ok () := by
    rfl
  ⟨accepted, exists_overlap _ 0 accepted (by decide)⟩

end Contest

end VolumeAttacher
