import VolumeAttacher.Proofs.Election.Backends
import VolumeAttacher.Proofs.Election.Exclusion

/-!
# The lease that is published

A candidate publishes its lease with every record by which it gets or renews the lock, in whole
seconds. Every other candidate reads it as it was published, wherever the lock is kept. So what is
published outlives the time for a renewal exactly if that holds already in whole seconds.
-/

namespace VolumeAttacher

namespace Timing

variable {timing : Timing}

/-- The whole seconds of a lease are no longer than the lease. -/
theorem recordedLease_le (timing : Timing) : timing.recordedLease.nanos ≤ timing.lease.nanos :=
  Nat.div_mul_le_self ..

/-- A time is below whole seconds if its own whole seconds are. -/
theorem renew_lt_recordedLease_iff :
    timing.renew.nanos < timing.recordedLease.nanos ↔
      timing.renew.seconds < timing.lease.seconds :=
  (Nat.div_lt_iff_lt_mul (by decide)).symm

end Timing

/-- A lock keeps the lease of a record. -/
@[simp] theorem LockKind.leaseDuration_kept (kind : LockKind) (record : Record) :
    (kind.kept record).leaseDuration = record.leaseDuration := by
  cases kind <;> rfl

/-- What a lock in memory holds after a write is what is read there. -/
theorem LockSlot.read_of_accepted
    {name : String}
    {slot : Option LockSlot}
    {written : LockSlot}
    {call : LockCall}
    {record : Record}
    (writes : call.record? = some record)
    (accepted : perform name slot call = (some written, .written (.ok ()))) :
    read (some written) = some ⟨record, written.versionText⟩ := by
  cases call with
  | get => cases writes
  | create desired =>
    obtain rfl := Option.some.inj writes
    cases slot with
    | none =>
      obtain rfl : ⟨desired, 1⟩ = written := by simpa [perform] using accepted
      rfl
    | some old => simp [perform] at accepted
  | update desired version =>
    obtain rfl := Option.some.inj writes
    cases slot with
    | none => simp [perform] at accepted
    | some old =>
      simp only [perform] at accepted
      split at accepted
      · obtain rfl : ⟨desired, old.version + 1⟩ = written := by simpa using accepted
        rfl
      · simp at accepted

namespace LockObject

variable {lock : LockObject} {registry next : Registry} {held : Option Record} {call : LockCall}
  {record : Record} {response : ClusterResponse}

/-- An object holds the record that was written to it. -/
theorem Keeps.holds_of_accepted
    (keeps : lock.Keeps registry held)
    (expressible : record.IsExpressible)
    (writes : call.record? = some record)
    (answers : registry.Answers (lock.request call) next response)
    (accepted : lock.reply call response = .written (.ok ())) :
    ∃ edition, next.present = some edition ∧ lock.Holds edition (lock.kind.kept record) := by
  have written : lock.written response = .ok () := by
    cases call with
    | get => cases writes
    | create | update => simpa [reply] using accepted
  have unrefused {code : Nat} {reason message : String} :
      response.problem? ≠ some (.refused code reason message) := by
    intro refused
    rw [written_of_refused refused] at written
    split_ifs at written
  cases call with
  | get => cases writes
  | create desired =>
    obtain rfl := Option.some.inj writes
    cases answers with
    | shows gets => cases gets
    | misses _ _ _ refused | conflicts _ _ _ _ refused => exact absurd refused unrefused
    | @creates part version posts reaches =>
      obtain rfl := Option.some.inj ((keeps.part?_eq _).symm.trans reaches)
      exact ⟨_, rfl, holds_created version expressible⟩
    | changes present makes =>
      have writes := makes.writes
      simp [request] at writes
    | elsewhere astray => simp [keeps.part?_eq] at astray
  | update desired stated =>
    obtain rfl := Option.some.inj writes
    have method := lock.method_update desired stated
    cases answers with
    | shows gets => simp [gets] at method
    | creates posts => simp [posts] at method
    | misses _ _ _ refused | conflicts _ _ _ _ refused => exact absurd refused unrefused
    | @changes old new present makes =>
      obtain ⟨before, -, holds⟩ := keeps.exists_holds present
      rw [keeps.body_eq makes]
      exact ⟨_, rfl, holds_updated stated new.version expressible holds⟩
    | elsewhere astray => simp [keeps.part?_eq] at astray

end LockObject

namespace Seat

variable {candidate : Candidate} {now : Moment} {event : ElectionEvent} {seat : Seat}
  {call : LockCall} {record : Record}

/-- What a candidate asks to write before it gives the lock up is its own claim. -/
theorem isClaimOf_of_asked
    (trying : ∀ release, seat.candidacy.phase ≠ .releasing release)
    (asked : (seat.after candidate now event).pending = some ⟨call, none⟩)
    (new : seat.pending ≠ some ⟨call, none⟩)
    (writes : call.record? = some record) :
    record.IsClaimOf candidate := by
  have ofAnswer {attempt attempt' : Attempt} {observed observed' : Option Observation}
      {reply : LockReply}
      (answer : attempt.answer candidate observed now reply = (observed', .ask attempt' call)) :
      record.IsClaimOf candidate := by
    obtain ⟨desired, -, rfl, claim, -⟩ | ⟨desired, current, -, rfl, claim, -⟩ :=
      Attempt.eq_of_answer_ask answer
    · obtain rfl := Option.some.inj writes
      exact claim
    · obtain rfl := Option.some.inj writes
      exact claim
  have turn := turn_after candidate now event seat
  generalize seat.after candidate now event = next at turn asked
  cases turn with
  | asks answer | keepsAsking answer =>
    obtain ⟨rfl, -⟩ := PendingCall.mk.inj (Option.some.inj asked)
    exact ofAnswer answer
  | seeks | renews | retries | releases =>
    obtain ⟨rfl, -⟩ := PendingCall.mk.inj (Option.some.inj asked)
    cases writes
  | vacates => exact absurd rfl (trying _)
  | breaksOff => cases asked
  | stays | leaves | leads | leadsInVain | pauses | giveUp | collapses | rests | misses | loses
  | breaksDown | stops | retires | retiresFree => exact absurd asked new

/-- Whatever a candidate with accepted settings asks to write before it gives the lock up, others
read the same lease from it, wherever the lock is kept. It is not longer than the lease of the
settings, and longer than the time for a renewal exactly if that holds in whole seconds. -/
theorem lease_outlives_renewal_iff
    (accepted : candidate.timing.check = .ok ())
    (trying : ∀ release, seat.candidacy.phase ≠ .releasing release)
    (asked : (seat.after candidate now event).pending = some ⟨call, none⟩)
    (new : seat.pending ≠ some ⟨call, none⟩)
    (writes : call.record? = some record) :
    record.leaseSeconds.toInt = candidate.timing.lease.seconds ∧
    ∃ lease : Duration,
      (∀ name slot written,
        LockSlot.perform name slot call = (some written, .written (.ok ())) →
        ∃ found, LockSlot.read (some written) = some found ∧
          found.record.leaseDuration = some lease) ∧
      (∀ (lock : LockObject) registry held next response,
        lock.Keeps registry held → record.IsExpressible →
        registry.Answers (lock.request call) next response →
        lock.reply call response = .written (.ok ()) →
        ∃ edition found, next.present = some edition ∧
          lock.found ⟨200, edition.shown⟩ = .ok (some found) ∧
          found.record.leaseDuration = some lease) ∧
      lease.nanos ≤ candidate.timing.lease.nanos ∧
      (candidate.timing.renew.nanos < lease.nanos ↔
        candidate.timing.renew.seconds < candidate.timing.lease.seconds) := by
  have claim := isClaimOf_of_asked trying asked new writes
  have published := claim.leaseDuration accepted
  refine ⟨claim.toInt_leaseSeconds accepted, candidate.timing.recordedLease, ?_, ?_,
    candidate.timing.recordedLease_le, Timing.renew_lt_recordedLease_iff⟩
  · intro name slot written taken
    exact ⟨_, LockSlot.read_of_accepted writes taken, published⟩
  · intro lock registry held next response keeps expressible answers taken
    obtain ⟨edition, present, holds⟩ := keeps.holds_of_accepted expressible writes answers taken
    exact ⟨edition, _, present, holds, by rw [LockKind.leaseDuration_kept, published]⟩

/-- A candidate that waits for what the lock says. -/
def asking : Seat :=
  ⟨⟨.acquiring (.reading ⟨1709287200, 0⟩), .acquiring, none, false⟩, none, false⟩

/-- With the standard settings a lease of fifteen seconds is read, which is longer than the ten
seconds for a renewal. -/
theorem standard_lease_outlives_renewal :
    let candidate : Candidate := ⟨"node-a", .standard⟩
    let record := Attempt.claim candidate ⟨1709287200, 0⟩
    (asking.after candidate default (.reply (.got (.ok none)))).pending =
      some ⟨.create record, none⟩ ∧
    ∃ found lease, LockSlot.read (some ⟨record, 1⟩) = some found ∧
      found.record.leaseDuration = some lease ∧
      candidate.timing.renew.nanos < lease.nanos ∧ lease.nanos ≤ candidate.timing.lease.nanos := by
  intro candidate record
  have accepted : Timing.standard.check = .ok () := rfl
  have asked : (asking.after candidate default (.reply (.got (.ok none)))).pending =
      some ⟨.create record, none⟩ := rfl
  have writes : (LockCall.create record).record? = some record := rfl
  obtain ⟨-, lease, memory, -, shorter, longer⟩ :=
    lease_outlives_renewal_iff accepted (by simp [asking]) asked (by simp [asking]) writes
  obtain ⟨found, read, published⟩ := memory "lock" none ⟨record, 1⟩ rfl
  exact ⟨asked, found, lease, read, published, longer.mpr (by decide), shorter⟩

/-- Settings that are accepted, and that differ only in a part of a second. -/
def fractional : Timing :=
  ⟨.ofMillis 14900, .ofMillis 14500, .ofSeconds 5, .ofSeconds 10⟩

/-- With them a lease of fourteen seconds is read, which is over while the holder still tries to
renew it. -/
theorem fractional_lease_is_short :
    let candidate : Candidate := ⟨"node-a", fractional⟩
    let record := Attempt.claim candidate ⟨1709287200, 0⟩
    fractional.check = .ok () ∧
    (asking.after candidate default (.reply (.got (.ok none)))).pending =
      some ⟨.create record, none⟩ ∧
    LockSlot.perform "lock" none (.create record) = (some ⟨record, 1⟩, .written (.ok ())) ∧
    LockSlot.read (some ⟨record, 1⟩) = some ⟨record, "1"⟩ ∧
    record.leaseDuration = some (.ofSeconds 14) ∧
    ¬ fractional.renew.nanos < (Duration.ofSeconds 14).nanos := by
  refine ⟨?_, rfl, rfl, ?_, ?_, ?_⟩
  · decide
  · decide
  · decide
  · decide

end Seat

end VolumeAttacher
