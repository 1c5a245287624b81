import VolumeAttacher.Proofs.Election.Entitlement

/-!
# Lawful contests

Whatever the timing of the candidates, the latency of the lock and the calls that fail, no candidate
ever asks for a write that it is not entitled to.
-/

namespace VolumeAttacher

/-! ## What the lock does -/

namespace LockServes

variable {time : Nat} {postings postings' : List Posting} {call : LockCall} {reply : LockReply}

/-- A lock forgets nothing that it held. -/
theorem kept (serves : LockServes time postings call postings' reply) : postings ⊆ postings' := by
  cases serves with
  | read | refuse => exact List.Subset.refl _
  | create record version result => exact List.nil_subset _
  | update current earlier record version result fresh => exact List.subset_cons_self _ _

/-- A lock never uses a version again. -/
theorem fresh
    (serves : LockServes time postings call postings' reply)
    (nodup : (postings.map Posting.version).Nodup) :
    (postings'.map Posting.version).Nodup := by
  cases serves with
  | read | refuse => exact nodup
  | create record version result => simp
  | update current earlier record version result fresh =>
    exact List.nodup_cons.mpr ⟨fresh, nodup⟩

/-- What a lock takes up has the time at which it was taken up. -/
theorem past
    (serves : LockServes time postings call postings' reply)
    (early : ∀ posting ∈ postings, posting.time ≤ time) :
    ∀ posting ∈ postings', posting.time ≤ time := by
  cases serves with
  | read | refuse => exact early
  | create record version result => simp
  | update current earlier record version result fresh =>
    intro posting present
    obtain rfl | present := List.mem_cons.mp present
    · exact Nat.le_refl _
    · exact early posting present

/-- A lock answers with what it held. -/
theorem mem_of_reply
    {found : Versioned}
    (serves : LockServes time postings call postings' (.got (.ok (some found)))) :
    ∃ posting ∈ postings', posting.versioned = found := by
  generalize same : LockReply.got (.ok (some found)) = reply at serves
  cases serves with
  | read =>
    obtain ⟨posting, first, found⟩ : ∃ posting, postings.head? = some posting ∧
        posting.versioned = found := by simpa using same.symm
    exact ⟨posting, List.mem_of_head? first, found⟩
  | create | update => cases same
  | refuse => cases call <;> simp [LockCall.failure] at same

end LockServes

namespace Contest

variable {ι : Type} [DecidableEq ι] {electorate : Electorate ι} {patience : Patience ι}
  {contest following : Contest ι}

/-- The beliefs and calls of all candidates agree with what the lock held. -/
structure Lawful (electorate : Electorate ι) (contest : Contest ι) : Prop where
  fresh : (contest.postings.map Posting.version).Nodup
  past : ∀ posting ∈ contest.postings, posting.time ≤ contest.now
  seats : ∀ index, (contest.seats index).Lawful (electorate.candidate index) contest.now
    contest.postings
  abandoned : ∀ index call, (index, call) ∈ contest.abandoned →
    call.Entitled (electorate.candidate index) contest.now contest.postings
  /-- A call that was given up and would give up the lock is of a candidate that is done. -/
  resigned : ∀ index call record, (index, call) ∈ contest.abandoned →
    call.record? = some record → record.IsClaimOf (electorate.candidate index) ∨
      (contest.seats index).candidacy.phase = .done

@[simp] theorem seated_seats_self (contest : Contest ι) (index : ι) (seat : Seat) :
    (contest.seated index seat).seats index = seat := by
  simp [seated]

@[simp] theorem seated_seats_of_ne (contest : Contest ι) {index other : ι} (seat : Seat)
    (differ : other ≠ index) :
    (contest.seated index seat).seats other = contest.seats other := by
  simp [seated, differ]

@[simp] theorem deliver_seats_self
    {index : ι} {clock : Timestamp} {event : ElectionEvent} {seat : Seat} :
    (contest.deliver electorate index clock event seat).seats index =
      seat.after (electorate.candidate index) ⟨contest.now, clock⟩ event := by
  simp [deliver]

namespace Lawful

omit [DecidableEq ι] in
theorem initial (electorate : Electorate ι) (found : Option Versioned) :
    Lawful electorate (Contest.initial found) where
  fresh := by cases found <;> simp [Contest.initial]
  past := by cases found <;> simp [Contest.initial]
  seats _ := Seat.lawful_of_quiet nofun trivial nofun
  abandoned _ _ given := absurd given List.not_mem_nil
  resigned _ _ _ given := absurd given List.not_mem_nil

/-- A candidate takes another seat in a lawful contest. -/
theorem seated
    {index : ι}
    {seat : Seat}
    (lawful : contest.Lawful electorate)
    (next : seat.Lawful (electorate.candidate index) contest.now contest.postings)
    (done : (contest.seats index).candidacy.phase = .done → seat.candidacy.phase = .done) :
    (contest.seated index seat).Lawful electorate := by
  refine ⟨lawful.fresh, lawful.past, fun other => ?_, lawful.abandoned,
    fun other call record given writes =>
      (lawful.resigned other call record given writes).imp_right ?_⟩
  all_goals by_cases own : other = index
  · subst own
    rw [seated_seats_self]
    exact next
  · rw [seated_seats_of_ne _ _ own]
    exact lawful.seats other
  · subst own
    rw [seated_seats_self]
    exact done
  · rw [seated_seats_of_ne _ _ own]
    exact id

omit [DecidableEq ι] in
/-- A candidate gives up a pending call in a lawful contest. -/
theorem abandoning
    (lawful : contest.Lawful electorate)
    (index : ι)
    (calls : List LockCall)
    (entitled : ∀ call ∈ calls,
      call.Entitled (electorate.candidate index) contest.now contest.postings)
    (resigned : ∀ call ∈ calls, ∀ record, call.record? = some record →
      record.IsClaimOf (electorate.candidate index) ∨
        (contest.seats index).candidacy.phase = .done) :
    Lawful electorate
      { contest with abandoned := calls.map (index, ·) ++ contest.abandoned } := by
  refine ⟨lawful.fresh, lawful.past, lawful.seats, fun other call given => ?_,
    fun other call record given writes => ?_⟩
  all_goals obtain given | given := List.mem_append.mp given
  · obtain ⟨_, given, ⟨⟩⟩ := List.mem_map.mp given
    exact entitled call given
  · exact lawful.abandoned other call given
  · obtain ⟨_, given, ⟨⟩⟩ := List.mem_map.mp given
    exact resigned call given record writes
  · exact lawful.resigned other call record given writes

/-- A candidate's event in a lawful contest. -/
theorem deliver
    {index : ι}
    {clock : Timestamp}
    {event : ElectionEvent}
    {seat : Seat}
    (lawful : contest.Lawful electorate)
    (prepared : seat.Lawful (electorate.candidate index) contest.now contest.postings)
    (same : seat.candidacy = (contest.seats index).candidacy)
    (read : ∀ reply, event = .reply reply → ∀ current, reply = .got (.ok (some current)) →
      PostedBy contest.postings current contest.now)
    (answered : ∀ reply, event = .reply reply → seat.pending = none)
    (ended : event = .workEnded → seat.isWorking = false) :
    (contest.deliver electorate index clock event seat).Lawful electorate := by
  have turn := Seat.turn_after (electorate.candidate index) ⟨contest.now, clock⟩ event seat
  have next := lawful.seated (turn.lawful prepared read answered ended)
    fun done => turn.done (same ▸ done)
  refine next.abandoning index _ (fun call given => ?_) fun call given record writes => .inl ?_
  all_goals obtain ⟨pending, attempt, deadline, renewing⟩ := Seat.eq_of_mem_givenUp given
  · exact prepared.entitled _ pending
  · refine (prepared.isClaimOf_of_pending pending writes).resolve_right ?_
    simp [renewing]

omit [DecidableEq ι] in
/-- The lock deals with a call in a lawful contest. -/
theorem serving
    {call : LockCall}
    {postings : List Posting}
    {reply : LockReply}
    (lawful : contest.Lawful electorate)
    (serves : LockServes contest.now contest.postings call postings reply) :
    Lawful electorate { contest with postings } where
  fresh := serves.fresh lawful.fresh
  past := serves.past lawful.past
  seats index := (lawful.seats index).later (Nat.le_refl _) serves.kept
  abandoned index call given :=
    (lawful.abandoned index call given).later (Nat.le_refl _) serves.kept
  resigned := lawful.resigned

/-- The lock answers a pending call in a lawful contest. -/
theorem replying
    {index : ι}
    {call : LockCall}
    {reply : LockReply}
    (lawful : contest.Lawful electorate)
    (pending : (contest.seats index).pending = some ⟨call, none⟩)
    (posted : ∀ found, reply = .got (.ok (some found)) →
      PostedBy contest.postings found contest.now) :
    Lawful electorate (contest.seated index
      { contest.seats index with pending := some ⟨call, some (reply, contest.now)⟩ }) := by
  have seat := lawful.seats index
  refine lawful.seated ⟨seat.observed, seat.claims, ?_, ?_, ?_, seat.working⟩ id
  · rintro _ ⟨⟩
    exact seat.awaits ⟨call, none⟩ pending
  · rintro _ ⟨⟩
    exact seat.entitled ⟨call, none⟩ pending
  · rintro _ found _ ⟨⟩
    exact posted found rfl

/-- A call fails in a lawful contest. -/
theorem failing
    {index : ι}
    {clock : Timestamp}
    {call : LockCall}
    {fault : Fault}
    (lawful : contest.Lawful electorate)
    (pending : (contest.seats index).pending = some ⟨call, none⟩) :
    Lawful electorate
      { contest.deliver electorate index clock (.reply (call.failure fault))
          { contest.seats index with pending := none } with
        abandoned := (index, call) :: contest.abandoned } := by
  have seat := lawful.seats index
  have delivered : (contest.deliver electorate index clock (.reply (call.failure fault))
      { contest.seats index with pending := none }).Lawful electorate :=
    lawful.deliver seat.unpending rfl (by cases call <;> simp [LockCall.failure])
      (fun _ _ => rfl) nofun
  have kept : (contest.deliver electorate index clock (.reply (call.failure fault))
      { contest.seats index with pending := none }).abandoned = contest.abandoned := by
    simp [Contest.deliver, Seat.givenUp_eq_nil]
  rw [← kept]
  refine delivered.abandoning index [call] (fun _ given => ?_) fun _ given record writes => ?_
  all_goals rw [List.mem_singleton.mp given] at *
  · exact seat.entitled _ pending
  · apply (seat.isClaimOf_of_pending pending writes).imp_right
    rintro ⟨released, phase⟩
    obtain ⟨version, rfl⟩ : ∃ version, call = .update released version := by
      simpa [phase, Phase.Awaits] using seat.awaits _ pending
    rw [deliver_seats_self]
    exact Seat.phase_after_failed_release (by exact phase) fault

/-- A candidate ends from one moment to the next in a lawful contest. -/
theorem crashing (lawful : contest.Lawful electorate) (index : ι) :
    Lawful electorate { contest.seated index (contest.seats index).crashed with
      abandoned := (contest.seats index).unserved.map (index, ·) ++ contest.abandoned } := by
  have seat := lawful.seats index
  have crashed : (contest.seats index).crashed.Lawful (electorate.candidate index)
      contest.now contest.postings := Seat.lawful_of_quiet seat.observed trivial nofun
  refine (lawful.seated crashed fun _ => rfl).abandoning index _ ?_
    fun _ _ _ _ => .inr (by simp [Seat.crashed])
  intro call given
  exact seat.entitled _ (Seat.mem_unserved.mp given)

omit [DecidableEq ι] in
/-- A lawful contest stays so while time passes. -/
theorem later
    {moment : Nat}
    (lawful : contest.Lawful electorate)
    (passed : contest.now ≤ moment) :
    Lawful electorate { contest with now := moment } where
  fresh := lawful.fresh
  past posting present := Nat.le_trans (lawful.past posting present) passed
  seats index := (lawful.seats index).later passed (List.Subset.refl _)
  abandoned index call given :=
    (lawful.abandoned index call given).later passed (List.Subset.refl _)
  resigned := lawful.resigned

/-- Every step of a lawful contest leads to a lawful one. -/
theorem step
    (lawful : contest.Lawful electorate)
    (step : Step electorate patience contest following) :
    following.Lawful electorate := by
  cases step with
  | start index clock | tick index clock | shutDown index clock =>
    exact lawful.deliver (lawful.seats index) rfl (fun _ told => nomatch told)
      (fun _ told => nomatch told) (fun told => nomatch told)
  | workEnds index clock ends =>
    exact lawful.deliver (lawful.seats index).unworking rfl (fun _ told => nomatch told)
      (fun _ told => nomatch told) fun _ => rfl
  | serve index call postings reply pending serves =>
    have served := lawful.serving serves
    apply served.replying pending
    rintro found rfl
    obtain ⟨posting, present, same⟩ := serves.mem_of_reply
    exact ⟨posting, present, same, served.past posting present⟩
  | answer index clock call reply time pending =>
    refine lawful.deliver (lawful.seats index).unpending rfl ?_ (fun _ _ => rfl) nofun
    rintro _ ⟨⟩ current rfl
    exact (lawful.seats index).read call current time pending
  | fail index clock call fault pending => exact lawful.failing pending
  | serveAbandoned index call postings reply abandoned serves => exact lawful.serving serves
  | crash index => exact lawful.crashing index
  | wait moment later timers prompt patient => exact lawful.later later

end Lawful

/-- Contests are lawful. -/
theorem Reachable.lawful (reachable : Reachable electorate patience contest) :
    contest.Lawful electorate := by
  obtain ⟨found, steps⟩ := reachable
  induction steps with
  | refl => exact .initial electorate found
  | tail _ step lawful => exact lawful.step step

end Contest

end VolumeAttacher
