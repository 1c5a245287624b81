import VolumeAttacher.Proofs.Election.Succession
import VolumeAttacher.Proofs.Election.Takeover

/-!
# Lineage of the record

Where only candidates write the lock and one of them created it, each record that the lock held was
made from the one before. So the present record says how often the lock changed hands since it was
created, and when its holder got it, whichever calls failed, came late or were given up.
-/

namespace VolumeAttacher

variable {ι : Type}

/-! ## Where calls come from -/

/-- The candidate makes an attempt that began at a time, and reads the lock. -/
def Seat.IsReading (seat : Seat) (began : Timestamp) : Prop :=
  seat.candidacy.phase = .acquiring (.reading began) ∨
    ∃ deadline, seat.candidacy.phase = .renewing (.reading began) deadline

/-- A write comes from the record that it is to replace, and from an attempt that asks for it or
from giving up the lock. -/
def LockCall.Stems
    (candidate : Candidate)
    (postings : List Posting)
    (asks : Timestamp → Prop) : LockCall → Prop
  | .get => True
  | .create record => ∃ began, asks began ∧ record = Attempt.claim candidate began
  | .update record version =>
    ∃ posting ∈ postings, posting.version = version ∧
      ((∃ began, asks began ∧ record = Attempt.succeed candidate began posting.record) ∨
        ∃ clock, record = Release.vacate posting.record clock)

theorem LockCall.Stems.mono
    {candidate : Candidate}
    {postings extended : List Posting}
    {asks asks' : Timestamp → Prop}
    {call : LockCall}
    (stems : call.Stems candidate postings asks)
    (kept : postings ⊆ extended)
    (more : ∀ began, asks began → asks' began) :
    call.Stems candidate extended asks' := by
  cases call with
  | get => trivial
  | create record =>
    obtain ⟨began, asked, claim⟩ := stems
    exact ⟨began, more began asked, claim⟩
  | update record version =>
    obtain ⟨posting, present, same, ⟨began, asked, succeeds⟩ | vacates⟩ := stems
    · exact ⟨posting, kept present, same, .inl ⟨began, more began asked, succeeds⟩⟩
    · exact ⟨posting, kept present, same, .inr vacates⟩

/-- An attempt asks for a write when it read what the write is to replace, and can count it. -/
theorem Attempt.exists_reading_of_answer_ask
    {candidate : Candidate}
    {observed observed' : Option Observation}
    {attempt attempt' : Attempt}
    {now : Moment}
    {reply : LockReply}
    {call : LockCall}
    (answer : attempt.answer candidate observed now reply = (observed', .ask attempt' call)) :
    ∃ began, attempt = .reading began ∧
      (reply = .got (.ok none) ∧ call = .create (claim candidate began) ∨
        ∃ current, reply = .got (.ok (some current)) ∧
          overflows candidate current.record = false ∧
          call = .update (succeed candidate began current.record) current.version) := by
  obtain began | desired | desired := attempt
  · refine ⟨began, rfl, ?_⟩
    obtain (_ | _ | current) | _ := reply
    · simp [Attempt.answer] at answer
    · simp only [Attempt.answer, Prod.mk.injEq, Next.ask.injEq] at answer
      exact .inl ⟨rfl, answer.2.2.symm⟩
    · simp only [Attempt.answer] at answer
      split at answer
      · simp at answer
      split at answer
      · simp at answer
      next fits =>
      simp only [Prod.mk.injEq, Next.ask.injEq] at answer
      exact .inr ⟨current, rfl, by simpa using fits, answer.2.2.symm⟩
    · simp [Attempt.answer] at answer
  all_goals
    obtain _ | (_ | _) := reply <;> simp [Attempt.answer] at answer

/-- What the lock takes up, if it comes from what it held, goes on with the lineage. -/
theorem Lineage.serves
    {electorate : Electorate ι}
    {asked : ι → Record → Timestamp → Prop}
    {asks : Timestamp → Prop}
    {time : Nat}
    {postings : List Posting}
    {posted : Posting}
    {call : LockCall}
    {reply : LockReply}
    {index : ι}
    (lineage : Lineage electorate asked postings)
    (fresh : (postings.map Posting.version).Nodup)
    (stems : call.Stems (electorate.candidate index) postings asks)
    (serves : LockServes time postings call (posted :: postings) reply)
    (known : ∀ record began, call.record? = some record → asks began →
      asked index record began) :
    Lineage electorate asked (posted :: postings) := by
  cases serves with
  | create record version result =>
    obtain ⟨began, asks, rfl⟩ := stems
    exact .created index began rfl (known _ began rfl asks) rfl rfl
  | update current earlier record version result unused =>
    obtain ⟨posting, present, same, origin⟩ := stems
    obtain rfl : posting = current :=
      List.inj_on_of_nodup_map fresh present List.mem_cons_self same
    obtain ⟨began, asks, rfl⟩ | ⟨clock, rfl⟩ := origin
    · exact .followed (.of_succeed rfl (known _ began rfl asks)) lineage
    · exact .followed (.vacated rfl rfl) lineage

namespace Seat

variable {candidate : Candidate} {moment : Moment} {event : ElectionEvent} {seat next : Seat}
  {postings : List Posting}

theorem stems_of_answer_ask
    {observed observed' : Option Observation}
    {attempt attempt' : Attempt}
    {reply : LockReply}
    {call : LockCall}
    {asks : Timestamp → Prop}
    (answer : attempt.answer candidate observed moment reply = (observed', .ask attempt' call))
    (reads : ∀ began, attempt = .reading began → asks began)
    (read : ∀ current, reply = .got (.ok (some current)) →
      PostedBy postings current moment.instant) :
    call.Stems candidate postings asks := by
  obtain ⟨began, reading, ⟨-, rfl⟩ | ⟨current, found, -, rfl⟩⟩ :=
    Attempt.exists_reading_of_answer_ask answer
  · exact ⟨began, reads began reading, rfl⟩
  · obtain ⟨posting, present, rfl, -⟩ := read current found
    exact ⟨posting, present, rfl, .inl ⟨began, reads began reading, rfl⟩⟩

/-- A call that an event makes a candidate ask comes from its attempt or from giving up the lock. -/
theorem Turn.stems
    (turn : Turn candidate moment event seat next)
    (read : ∀ reply, event = .reply reply → ∀ current, reply = .got (.ok (some current)) →
      PostedBy postings current moment.instant)
    {pending : PendingCall}
    (present : next.pending = some pending) :
    seat.pending = some pending ∨ pending.answer = none ∧
      pending.call.Stems candidate postings fun began => seat.IsReading began := by
  cases turn with
  | stays | leaves | leads | leadsInVain | pauses | giveUp | collapses | rests | misses | loses
  | breaksDown | stops | retires | retiresFree => exact .inl present
  | breaksOff => cases present
  | seeks | renews | retries | releases =>
    obtain rfl := Option.some.inj present
    exact .inr ⟨rfl, trivial⟩
  | asks answer =>
    obtain rfl := Option.some.inj present
    refine .inr ⟨rfl, stems_of_answer_ask answer ?_ (read _ rfl)⟩
    rintro began rfl
    exact .inl rfl
  | keepsAsking answer =>
    obtain rfl := Option.some.inj present
    refine .inr ⟨rfl, stems_of_answer_ask answer ?_ (read _ rfl)⟩
    rintro began rfl
    exact .inr ⟨_, rfl⟩
  | @vacates current =>
    obtain rfl := Option.some.inj present
    obtain ⟨posting, posted, rfl, -⟩ := read _ rfl current rfl
    exact .inr ⟨rfl, posting, posted, rfl, .inr ⟨moment.clock, rfl⟩⟩

end Seat

namespace Contest

variable [DecidableEq ι] {electorate : Electorate ι} {contest following : Contest ι}

/-- A candidate's call that the lock may deal with, or has dealt with. -/
def InFlight (contest : Contest ι) (index : ι) (call : LockCall) : Prop :=
  (∃ answer, (contest.seats index).pending = some ⟨call, answer⟩) ∨
    (index, call) ∈ contest.abandoned

/-- A candidate that read the lock goes on with a call, in the attempt that began at a time. -/
def Asks (contest following : Contest ι) (index : ι) (call : LockCall) (began : Timestamp) : Prop :=
  (contest.seats index).IsReading began ∧
    (following.seats index).pending = some ⟨call, none⟩

/-- Where the calls in flight after a step come from. -/
def Grows (electorate : Electorate ι) (contest following : Contest ι) : Prop :=
  ∀ index call, following.InFlight index call → contest.InFlight index call ∨
    call.Stems (electorate.candidate index) contest.postings (contest.Asks following index call)

theorem pending_of_seated
    {index other : ι}
    {seat : Seat}
    {pending : PendingCall}
    (differ : other ≠ index)
    (present : ((contest.seated index seat).seats other).pending = some pending) :
    (contest.seats other).pending = some pending := by
  rwa [seated_seats_of_ne _ _ differ] at present

theorem grows_deliver
    {index : ι}
    {clock : Timestamp}
    {event : ElectionEvent}
    {seat : Seat}
    (same : seat.candidacy = (contest.seats index).candidacy)
    (kept : ∀ pending, seat.pending = some pending →
      (contest.seats index).pending = some pending)
    (read : ∀ reply, event = .reply reply → ∀ current, reply = .got (.ok (some current)) →
      PostedBy contest.postings current contest.now) :
    Grows electorate contest (contest.deliver electorate index clock event seat) := by
  rintro other call (⟨answer, pending⟩ | abandoned)
  · by_cases own : other = index
    · subst own
      have turn := Seat.turn_after (electorate.candidate other) ⟨contest.now, clock⟩ event seat
      obtain earlier | ⟨rfl, stems⟩ := turn.stems read (by simpa using pending)
      · exact .inl (.inl ⟨answer, kept _ earlier⟩)
      · refine .inr (stems.mono (List.Subset.refl _) fun began reading => ⟨?_, pending⟩)
        rwa [Seat.IsReading, same] at reading
    · exact .inl (.inl ⟨answer, pending_of_seated own pending⟩)
  · obtain given | abandoned := List.mem_append.mp abandoned
    · obtain ⟨_, given, ⟨⟩⟩ := List.mem_map.mp given
      exact .inl (.inl ⟨none, kept _ (Seat.eq_of_mem_givenUp given).1⟩)
    · exact .inl (.inr abandoned)

/-- An event other than an answer. -/
theorem grows_event
    {index : ι}
    {clock : Timestamp}
    {event : ElectionEvent}
    {seat : Seat}
    (other : ∀ reply, event ≠ .reply reply)
    (same : seat.candidacy = (contest.seats index).candidacy)
    (kept : seat.pending = (contest.seats index).pending) :
    Grows electorate contest (contest.deliver electorate index clock event seat) :=
  grows_deliver same (fun _ present => kept ▸ present) fun reply told => absurd told (other reply)

/-- An answer, which is not pending any more. -/
theorem grows_reply
    {index : ι}
    {clock : Timestamp}
    {reply : LockReply}
    (read : ∀ current, reply = .got (.ok (some current)) →
      PostedBy contest.postings current contest.now) :
    Grows electorate contest (contest.deliver electorate index clock (.reply reply)
      { contest.seats index with pending := none }) := by
  refine grows_deliver rfl (fun _ present => by simp at present) ?_
  intro other told
  obtain rfl := ElectionEvent.reply.inj told
  exact read

/-- A call that fails on its way stays in flight. -/
theorem grows_fail
    {index : ι}
    {call : LockCall}
    (clock : Timestamp)
    (fault : Fault)
    (pending : (contest.seats index).pending = some ⟨call, none⟩) :
    Grows electorate contest
      { contest.deliver electorate index clock (.reply (call.failure fault))
          { contest.seats index with pending := none } with
        abandoned := (index, call) :: contest.abandoned } := by
  have read (current : Versioned) (found : call.failure fault = .got (.ok (some current))) :
      PostedBy contest.postings current contest.now := by
    cases call <;> cases found
  rintro other made (waiting | abandoned)
  · exact grows_reply read other made (.inl waiting)
  · obtain ⟨⟨⟩⟩ | abandoned := List.mem_cons.mp abandoned
    · exact .inl (.inl ⟨none, pending⟩)
    · exact .inl (.inr abandoned)

/-- A call that the lock deals with was in flight. -/
theorem grows_serve
    {index : ι}
    {call : LockCall}
    (postings : List Posting)
    (reply : LockReply)
    (pending : (contest.seats index).pending = some ⟨call, none⟩) :
    Grows electorate contest
      { contest.seated index
          { contest.seats index with pending := some ⟨call, some (reply, contest.now)⟩ } with
        postings } := by
  rintro other made (⟨answer, waiting⟩ | abandoned)
  · by_cases own : other = index
    · subst own
      obtain ⟨rfl, -⟩ : call = made ∧ some (reply, contest.now) = answer := by
        simpa using waiting
      exact .inl (.inl ⟨none, pending⟩)
    · exact .inl (.inl ⟨answer, pending_of_seated own waiting⟩)
  · exact .inl (.inr abandoned)

/-- A call of a candidate that ends from one moment to the next stays in flight. -/
theorem grows_crash (index : ι) :
    Grows electorate contest
      { contest.seated index (contest.seats index).crashed with
        abandoned := (contest.seats index).unserved.map (index, ·) ++ contest.abandoned } := by
  rintro other made (⟨answer, waiting⟩ | abandoned)
  · by_cases own : other = index
    · subst own
      simp [Seat.crashed] at waiting
    · exact .inl (.inl ⟨answer, pending_of_seated own waiting⟩)
  · obtain given | abandoned := List.mem_append.mp abandoned
    · obtain ⟨_, given, ⟨⟩⟩ := List.mem_map.mp given
      exact .inl (.inl ⟨none, Seat.mem_unserved.mp given⟩)
    · exact .inl (.inr abandoned)

/-- Calls in flight come from attempts that ask for them in the same step, or from earlier. -/
theorem LooseStep.grows
    (step : LooseStep electorate contest following)
    (lawful : contest.Lawful electorate) :
    Grows electorate contest following := by
  cases step with
  | dawdle => exact fun _ _ flight => .inl flight
  | prompt patience step =>
    cases step with
    | start | tick | shutDown | workEnds =>
      refine grows_event ?_ rfl rfl
      rintro _ ⟨⟩
    | answer index clock call reply time pending =>
      refine grows_reply fun current found => ?_
      subst found
      exact (lawful.seats index).read call current time pending
    | fail index clock call fault pending => exact grows_fail clock fault pending
    | serve index call postings reply pending => exact grows_serve postings reply pending
    | crash index => exact grows_crash index
    | serveAbandoned | wait => exact fun _ _ flight => .inl flight

theorem Writes.postings
    {writer : ι}
    {posted : Posting}
    (writes : contest.Writes writer posted following) :
    following.postings = posted :: contest.postings := by
  cases writes <;> rfl

/-- The lock accepts a record because it deals with a call in flight. -/
theorem Writes.inFlight
    {writer : ι}
    {posted : Posting}
    (writes : contest.Writes writer posted following) :
    ∃ call reply, contest.InFlight writer call ∧
      LockServes contest.now contest.postings call (posted :: contest.postings) reply := by
  cases writes with
  | pending call reply pending serves => exact ⟨call, reply, .inl ⟨none, pending⟩, serves⟩
  | abandoned call reply abandoned serves => exact ⟨call, reply, .inr abandoned, serves⟩

theorem LooseStep.postings_subset (step : LooseStep electorate contest following) :
    contest.postings ⊆ following.postings := by
  obtain same | ⟨writer, posted, writes⟩ := step.postings_eq_or_writes
  · rw [same]
    exact List.Subset.refl _
  · rw [writes.postings]
    exact List.subset_cons_self ..

/-! ## Runs -/

/-- The contests of a run from before anybody started, for a lock that does not exist yet. The
present contest is the first. -/
inductive Run (electorate : Electorate ι) : List (Contest ι) → Prop
  | begins : Run electorate [initial none]
  | goesOn {contest following : Contest ι} {past : List (Contest ι)}
      (step : LooseStep electorate contest following)
      (run : Run electorate (contest :: past)) :
    Run electorate (following :: contest :: past)

/-- In the course of a run a candidate asked the lock for something, in an attempt that began at a
time. -/
def Asked (run : List (Contest ι)) (index : ι) (call : LockCall) (began : Timestamp) : Prop :=
  ∃ contest following, [following, contest] <:+: run ∧ contest.Asks following index call began

/-- In the course of a run a candidate asked for a record to be written, in an attempt that began at
a time. -/
def AskedToWrite
    (run : List (Contest ι))
    (index : ι)
    (record : Record)
    (began : Timestamp) : Prop :=
  ∃ call, call.record? = some record ∧ Asked run index call began

namespace Run

variable {past : List (Contest ι)}

theorem lawful (run : Run electorate (contest :: past)) : contest.Lawful electorate := by
  induction past generalizing contest with
  | nil =>
    cases run with
    | begins => exact .initial electorate none
  | cons earlier past hypothesis =>
    cases run with
    | goesOn step run => exact (hypothesis run).looseStep step

omit [DecidableEq ι] in
theorem asked_cons
    (following : Contest ι)
    {run : List (Contest ι)}
    {index : ι}
    {call : LockCall}
    {began : Timestamp}
    (asked : Asked run index call began) :
    Asked (following :: run) index call began := by
  obtain ⟨before, after, present, asks⟩ := asked
  exact ⟨before, after, present.trans (List.suffix_cons ..).isInfix, asks⟩

/-- Whatever the lock may deal with comes from an attempt of the run or from giving up the lock. -/
theorem stems
    (run : Run electorate (contest :: past))
    {index : ι}
    {call : LockCall}
    (flight : contest.InFlight index call) :
    call.Stems (electorate.candidate index) contest.postings
      (Asked (contest :: past) index call) := by
  induction past generalizing contest with
  | nil =>
    cases run with
    | begins => simp [InFlight, initial, Seat.vacant] at flight
  | cons earlier past hypothesis =>
    cases run with
    | goesOn step run =>
      have kept := step.postings_subset
      obtain flight | stems := step.grows run.lawful index call flight
      · exact (hypothesis run flight).mono kept fun began => asked_cons contest
      · exact stems.mono kept fun began asks =>
          ⟨earlier, contest, (List.prefix_append [contest, earlier] past).isInfix, asks⟩

/-- Every record that the lock took up comes from the one before. -/
theorem lineage (run : Run electorate (contest :: past)) :
    Lineage electorate (AskedToWrite (contest :: past)) contest.postings := by
  induction past generalizing contest with
  | nil =>
    cases run with
    | begins => exact .unheld
  | cons earlier past hypothesis =>
    cases run with
    | goesOn step run =>
      have before : Lineage electorate (AskedToWrite (contest :: earlier :: past))
          earlier.postings :=
        (hypothesis run).mono
          fun index record began ⟨call, writes, asked⟩ => ⟨call, writes, asked_cons contest asked⟩
      obtain same | ⟨writer, posted, writes⟩ := step.postings_eq_or_writes
      · rwa [same]
      · rw [writes.postings]
        obtain ⟨call, reply, flight, serves⟩ := writes.inFlight
        exact before.serves run.lawful.fresh (run.stems flight) serves
          fun record began record? asked => ⟨call, record?, asked_cons contest asked⟩

/-- In every run for a lock that one of the candidates creates and that only they write, with fewer
takeovers than a record can count: the present record counts the takeovers since the creation, every
other write leaves the number as it is, a record that is held says when the attempt began with which
its holder got the lock, and every later write of the holder keeps that time. -/
theorem record_tells_its_lineage
    {posting : Posting}
    {earlier : List Posting}
    (run : Run electorate (contest :: past))
    (present : contest.postings = posting :: earlier)
    (few : Posting.takeovers contest.postings < Record.greatestTransitions) :
    posting.record.transitions.toInt = Posting.takeovers contest.postings ∧
      (posting.record.isHeld → ∃ first index began,
        Posting.installing? contest.postings = some first ∧
        posting.record.holder = electorate.identity index ∧
        AskedToWrite (contest :: past) index first.record began ∧
        posting.record.acquired = some began) ∧
      ∀ later prior older, later :: prior :: older <:+ contest.postings →
        (later.takesOver prior = false →
          later.record.transitions = prior.record.transitions) ∧
        (later.record.holder = prior.record.holder → later.record.isHeld →
          later.record.acquired = prior.record.acquired) := by
  have lineage := run.lineage
  rw [present] at lineage few ⊢
  refine ⟨lineage.transitions_eq few, lineage.exists_installing, fun later prior older suffix => ?_⟩
  have succession := lineage.succession_of_suffix suffix
  exact ⟨succession.transitions_of_not_takesOver, succession.acquired_of_holder_eq⟩

/-- A run of two candidates goes on with further steps. -/
theorem exists_of_runs
    {timing : Timing}
    {contest following : Contest Bool}
    {past : List (Contest Bool)}
    (run : Run (duel timing) (contest :: past))
    (runs : Runs timing (fun _ _ => True) contest following) :
    ∃ past, Run (duel timing) (following :: past) := by
  induction runs with
  | refl => exact ⟨past, run⟩
  | tail _ step reached =>
    obtain ⟨past, run⟩ := reached
    exact ⟨_, .goesOn (.prompt _ step) run⟩

/-- A rival whose timer rings late goes for the lock that the holder created. -/
theorem exists_run_to_rivalUpdating
    (timing : Timing)
    (accepted : timing.check = .ok ()) :
    let late := Duration.ring timing.retry.nanos + timing.recordedLease.nanos
    ∃ past, Run (duel timing)
      (ofPair late [⟨firstClaim timing default, "1", 0⟩] (holderAwaiting timing default 0)
        (rivalUpdating timing default 0) :: past) := by
  intro late
  have opened : Run (duel timing) [initial none] := .begins
  rw [initial_eq_ofPair] at opened
  obtain ⟨_, sight⟩ := opened.exists_of_runs (runs_to_first_sight _ default 0 accepted)
  have waits := Run.goesOn (.dawdle _ late (Nat.zero_le _)) sight
  have due : Duration.ring (0 + timing.retry.nanos) ≤ late := by
    rw [Nat.zero_add]
    exact Nat.le_add_right ..
  obtain ⟨_, asks⟩ := waits.exists_of_runs
    (runs_tick_rival default rfl (Seat.after_pausing _ due))
  exact asks.exists_of_runs (runs_to_update _ default 0 accepted _ (by omega))

/-- With the standard settings a rival takes over the record that the holder created, and its own
record tells so. -/
theorem record_tells_a_takeover :
    ∃ (contest : Contest Bool) (past : List (Contest Bool)) (posting : Posting)
      (earlier : List Posting),
      Run (duel .standard) (contest :: past) ∧ contest.postings = posting :: earlier ∧
        Posting.takeovers contest.postings < Record.greatestTransitions ∧ posting.record.isHeld ∧
        posting.record.transitions.toInt = 1 ∧
        ∃ first index began, Posting.installing? contest.postings = some first ∧
          posting.record.holder = (duel .standard).identity index ∧
          AskedToWrite (contest :: past) index first.record began ∧
          posting.record.acquired = some began := by
  obtain ⟨past, run⟩ := exists_run_to_rivalUpdating .standard rfl
  let rival := (duel .standard).candidate true
  let claimed : Posting := ⟨firstClaim .standard default, "1", 0⟩
  let taken : Posting := ⟨Attempt.succeed rival default claimed.record, "2",
    Duration.ring Timing.standard.retry.nanos + Timing.standard.recordedLease.nanos⟩
  have serves : LockServes taken.time [claimed] (.update taken.record "1") [taken, claimed]
      (.written (.ok ())) :=
    .update claimed [] taken.record "2" (.ok ()) (by simp [claimed])
  have writes : Writes
      (ofPair taken.time [claimed] (holderAwaiting .standard default 0)
        (rivalUpdating .standard default 0)) true taken _ :=
    .pending _ _ rfl serves
  have grown := Run.goesOn (.prompt (fun _ _ => True) writes.step) run
  have few : Posting.takeovers [taken, claimed] < Record.greatestTransitions := by decide
  obtain ⟨count, installed, -⟩ := grown.record_tells_its_lineage rfl few
  exact ⟨_, _, taken, [claimed], grown, rfl, few, rfl, count, installed rfl⟩

end Run

end Contest

end VolumeAttacher
