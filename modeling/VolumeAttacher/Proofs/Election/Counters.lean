import VolumeAttacher.Proofs.Election.Exclusion
import VolumeAttacher.Proofs.Election.Lineage

/-!
# What foreign records do to counters

Anybody who may write the lock may put any record into it. Whatever a candidate reads there, the
time for which it takes the record to be valid fits in a record, and so does the lease that it
writes itself. The number of changes of hands is another matter: a candidate that is about to take
over a record with the greatest number breaks down.
-/

namespace VolumeAttacher

namespace Record

/-- How often the lock has changed hands once a candidate succeeded a record: once more, unless the
record is its own. -/
def transitionsAfter (candidate : Candidate) (current : Record) : Int :=
  if current.holder = candidate.identity then current.transitions.toInt
  else current.transitions.toInt + 1

/-- A record that is not a candidate's own and has no room for another change of hands. -/
def IsFull (candidate : Candidate) (current : Record) : Prop :=
  current.holder ≠ candidate.identity ∧ current.transitions.toInt = greatestTransitions

instance (candidate : Candidate) (current : Record) : Decidable (current.IsFull candidate) :=
  inferInstanceAs (Decidable (_ ∧ _))

theorem isFull_iff_overflows (candidate : Candidate) (current : Record) :
    current.IsFull candidate ↔ Attempt.overflows candidate current = true := by
  have greatest : Int32.maxValue.toInt = greatestTransitions := rfl
  unfold IsFull Attempt.overflows
  rw [← greatest, Int32.toInt_inj]
  simp

/-- The number after any other than the greatest one. -/
theorem toInt_next {count : Int32} (smaller : count.toInt ≠ greatestTransitions) :
    (count + 1).toInt = count.toInt + 1 := by
  have below := count.toInt_lt
  have above := count.le_toInt
  have one : (1 : Int32).toInt = 1 := rfl
  rw [Int32.toInt_add, one]
  unfold greatestTransitions at smaller
  exact Int.bmod_eq_of_le (by omega) (by omega)

section Succeed

variable {candidate : Candidate} {current : Record}

/-- A candidate that succeeds a record that is not full counts right. -/
theorem toInt_transitions_succeed
    (began : Timestamp)
    (roomy : ¬ current.IsFull candidate) :
    (Attempt.succeed candidate began current).transitions.toInt =
      current.transitionsAfter candidate := by
  unfold transitionsAfter
  by_cases own : current.holder = candidate.identity
  · rw [(Attempt.succeed_of_own candidate began own).2, if_pos own]
  · have smaller : current.transitions.toInt ≠ greatestTransitions := fun full => roomy ⟨own, full⟩
    rw [(Attempt.succeed_of_foreign candidate began own).2, toInt_next smaller, if_neg own]

/-- The number of changes of hands never falls. -/
theorem le_transitionsAfter (candidate : Candidate) (current : Record) :
    current.transitions.toInt ≤ current.transitionsAfter candidate := by
  unfold transitionsAfter
  split <;> omega

end Succeed

end Record

/-- The time for which a candidate takes any record to be valid is positive and fits in a record. -/
theorem Attempt.validity_in_range
    {candidate : Candidate}
    (accepted : candidate.timing.check = .ok ())
    (found : Record) :
    0 < (validity candidate found).nanos ∧
      (validity candidate found).seconds ≤ Timing.greatestSeconds := by
  obtain ⟨positive, bounded⟩ := Timing.lease_in_range accepted
  have below := found.leaseSeconds.toInt_lt
  unfold validity Record.leaseDuration
  split
  · next stated =>
    unfold Duration.ofSeconds Duration.seconds Duration.perSecond Timing.greatestSeconds
    simp only [Option.getD_some]
    omega
  · refine ⟨?_, bounded⟩
    simp only [Option.getD_none]
    unfold Duration.seconds at positive
    exact Nat.pos_of_div_pos positive

/-! ## Breakdowns -/

namespace Candidacy

variable (candidate : Candidate) (now : Moment) (candidacy : Candidacy)

@[simp] theorem mem_after {action : ElectionAction} {actions : List ElectionAction} {step : Step} :
    action ∈ (after actions step).2 ↔ action ∈ actions ∨ action ∈ step.2 :=
  List.mem_append

@[simp] theorem snd_enter (phase : Phase) : (candidacy.enter phase).2 = [] := rfl

@[simp] theorem breakDown_notMem_withdraw : .breakDown ∉ candidacy.withdraw.2 := by
  simp [withdraw, publish, finish]

@[simp] theorem breakDown_notMem_tryAcquire : .breakDown ∉ (candidacy.tryAcquire now).2 := by
  simp [tryAcquire]

@[simp] theorem breakDown_notMem_acquire : .breakDown ∉ (candidacy.acquire now).2 := by
  unfold acquire publish
  dsimp only
  split <;> simp

@[simp] theorem breakDown_notMem_tryRenew (deadline : Nat) :
    .breakDown ∉ (candidacy.tryRenew now deadline).2 := by
  simp [tryRenew]

@[simp] theorem breakDown_notMem_stop (ending : Ending) :
    .breakDown ∉ (candidacy.stop candidate ending now).2 := by
  simp [stop]

@[simp] theorem breakDown_notMem_rest : .breakDown ∉ (candidacy.rest candidate now).2 := by
  simp [rest]

@[simp] theorem breakDown_notMem_lead : .breakDown ∉ (candidacy.lead candidate now).2 := by
  unfold lead publish
  dsimp only
  split <;> simp

@[simp] theorem breakDown_notMem_pause : .breakDown ∉ (candidacy.pause candidate now).2 := by
  unfold pause
  split <;> simp

@[simp] theorem breakDown_notMem_miss (deadline : Nat) :
    .breakDown ∉ (candidacy.miss candidate deadline now).2 := by
  unfold miss
  dsimp only
  split <;> simp

@[simp] theorem breakDown_notMem_release : .breakDown ∉ candidacy.release.2 := by
  simp [release]

@[simp] theorem breakDown_notMem_retire : .breakDown ∉ candidacy.retire.2 := by
  simp [retire, publish, finish]

@[simp] theorem breakDown_notMem_stopped (ending : Ending) :
    .breakDown ∉ (candidacy.stopped ending now).2 := by
  cases ending <;> simp [stopped, publish]

end Candidacy

namespace Seat

variable {candidate : Candidate} {now : Moment} {event : ElectionEvent} {seat : Seat}
  {call : LockCall} {record : Record}

/-- Where a record comes from that a candidate asks to write: it is the candidate's first claim
where the lock holds nothing, or it succeeds or gives up what the candidate just read. -/
inductive Source (candidate : Candidate) (now : Moment) : ElectionEvent → LockCall → Prop
  | claims (began : Timestamp) :
    Source candidate now (.reply (.got (.ok none))) (.create (Attempt.claim candidate began))
  | succeeds (began : Timestamp) (current : Versioned)
      (roomy : ¬ current.record.IsFull candidate) :
    Source candidate now (.reply (.got (.ok (some current))))
      (.update (Attempt.succeed candidate began current.record) current.version)
  | vacates (current : Versioned) (own : current.record.holder = candidate.identity) :
    Source candidate now (.reply (.got (.ok (some current))))
      (.update (Release.vacate current.record now.clock) current.version)

theorem source_of_answer_ask
    {attempt attempt' : Attempt}
    {observed observed' : Option Observation}
    {reply : LockReply}
    (answer : attempt.answer candidate observed now reply = (observed', .ask attempt' call)) :
    Source candidate now (.reply reply) call := by
  obtain ⟨began, -, ⟨rfl, rfl⟩ | ⟨current, rfl, fits, rfl⟩⟩ :=
    Attempt.exists_reading_of_answer_ask answer
  · exact .claims began
  · refine .succeeds began current ?_
    rw [Record.isFull_iff_overflows, fits]
    exact Bool.false_ne_true

/-- Whatever a candidate asks to write has a source. -/
theorem source_of_asked
    (asked : (seat.after candidate now event).pending = some ⟨call, none⟩)
    (new : seat.pending ≠ some ⟨call, none⟩)
    (writes : call.record? = some record) :
    Source candidate now event call := by
  have turn := turn_after candidate now event seat
  generalize seat.after candidate now event = next at turn asked
  cases turn with
  | asks answer | keepsAsking answer =>
    obtain ⟨rfl, -⟩ := PendingCall.mk.inj (Option.some.inj asked)
    exact source_of_answer_ask answer
  | @vacates current _ _ _ _ _ _ _ own =>
    obtain ⟨rfl, -⟩ := PendingCall.mk.inj (Option.some.inj asked)
    exact .vacates current own
  | seeks | renews | retries | releases =>
    obtain ⟨rfl, -⟩ := PendingCall.mk.inj (Option.some.inj asked)
    cases writes
  | breaksOff => cases asked
  | stays | leaves | leads | leadsInVain | pauses | giveUp | collapses | rests | misses | loses
  | breaksDown | stops | retires | retiresFree => exact absurd asked new

/-- A candidate breaks down exactly with an attempt that does. -/
theorem breakDown_mem_actions_iff_answer :
    .breakDown ∈ seat.actions candidate now event ↔
      ∃ attempt reply, event = .reply reply ∧
        (seat.candidacy.phase = .acquiring attempt ∨
          ∃ deadline, seat.candidacy.phase = .renewing attempt deadline) ∧
        (attempt.answer candidate seat.candidacy.observed now reply).2 = .overflow := by
  obtain ⟨⟨phase, leadership, observed, shutDown⟩, pending, isWorking⟩ := seat
  cases event with
  | reply reply =>
    cases phase with
    | acquiring attempt =>
      rcases answer : attempt.answer candidate observed now reply with ⟨observed', next⟩
      simp only [actions, Candidacy.step, Candidacy.onReply, answer]
      cases next with
      | overflow => simp [answer, Candidacy.breakDown]
      | ask => simp [answer]
      | ended success => cases success <;> simp [answer]
    | renewing attempt deadline =>
      rcases answer : attempt.answer candidate observed now reply with ⟨observed', next⟩
      simp only [actions, Candidacy.step, Candidacy.onReply, answer]
      cases next with
      | overflow => simp [answer, Candidacy.breakDown]
      | ask => simp [answer]
      | ended success => cases success <;> simp [answer]
    | releasing release =>
      simp only [actions, Candidacy.step, Candidacy.onReply]
      split <;> try split
      all_goals simp_all
    | idle | pausing | resting | retrying | stopping | done =>
      simp [actions, Candidacy.step, Candidacy.onReply]
  | start => cases phase <;> simp [actions, Candidacy.step]
  | tick =>
    simp only [actions, Candidacy.step]
    cases phase <;> simp only [Candidacy.timer?, Candidacy.onTimer] <;> try split
    all_goals simp
  | shutDown => cases phase <;> simp [actions, Candidacy.step, Candidacy.onShutDown]
  | workEnded => cases phase <;> simp [actions, Candidacy.step, Candidacy.onWorkEnded]

/-- A candidate breaks down exactly when the answer to its reading of the lock brings a full record
that is not somebody else's any more. -/
theorem breakDown_mem_actions_iff :
    .breakDown ∈ seat.actions candidate now event ↔
      (∃ began, seat.IsReading began) ∧
      ∃ current, event = .reply (.got (.ok (some current))) ∧
        Attempt.isTaken candidate
          (Attempt.observe seat.candidacy.observed current now.instant) now.instant = false ∧
        current.record.IsFull candidate := by
  simp only [breakDown_mem_actions_iff_answer, Record.isFull_iff_overflows,
    Attempt.answer_eq_overflow_iff, IsReading]
  constructor
  · rintro ⟨attempt, reply, rfl, reads, began, current, rfl, rfl, free, full⟩
    exact ⟨⟨began, reads⟩, current, rfl, free, full⟩
  · rintro ⟨⟨began, reads⟩, current, rfl, free, full⟩
    exact ⟨_, _, rfl, reads, began, current, rfl, rfl, free, full⟩

/-- Whatever the lock holds and whatever a candidate with accepted settings remembers, the time for
which the candidate takes a record to be valid is positive and fits in a record. An event breaks it
down exactly if it brings a record that the candidate may take over, that is not its own and that
already counts the greatest number of changes of hands. Whatever it asks to write has a lease that is
positive and fits in a record, and counts the changes of hands right, which are no fewer than those
of the record that it is to replace. -/
theorem counters_fit_iff (accepted : candidate.timing.check = .ok ()) :
    (∀ found : Record, 0 < (Attempt.validity candidate found).nanos ∧
      (Attempt.validity candidate found).seconds ≤ Timing.greatestSeconds) ∧
    (.breakDown ∈ seat.actions candidate now event ↔
      (∃ began, seat.IsReading began) ∧
      ∃ current, event = .reply (.got (.ok (some current))) ∧
        Attempt.isTaken candidate
          (Attempt.observe seat.candidacy.observed current now.instant) now.instant = false ∧
        current.record.IsFull candidate) ∧
    ∀ call record, (seat.after candidate now event).pending = some ⟨call, none⟩ →
      seat.pending ≠ some ⟨call, none⟩ → call.record? = some record →
        (record.leaseSeconds.toInt = candidate.timing.lease.seconds ∨
          record.leaseSeconds.toInt = 1 ∧ record.holder = "") ∧
        (event = .reply (.got (.ok none)) ∧ call = .create record ∧
            record.transitions.toInt = 0 ∨
          ∃ current, event = .reply (.got (.ok (some current))) ∧
            call = .update record current.version ∧
            record.transitions.toInt = current.record.transitionsAfter candidate ∧
            current.record.transitions ≤ record.transitions) := by
  refine ⟨Attempt.validity_in_range accepted, breakDown_mem_actions_iff, ?_⟩
  intro call record asked new writes
  cases source_of_asked asked new writes with
  | claims began =>
    obtain rfl := Option.some.inj writes
    have claim := Attempt.claim_isClaimOf candidate began
    exact ⟨.inl (claim.toInt_leaseSeconds accepted), .inl ⟨rfl, rfl, rfl⟩⟩
  | succeeds began current roomy =>
    obtain rfl := Option.some.inj writes
    have claim := Attempt.succeed_isClaimOf candidate began current.record
    have counts := Record.toInt_transitions_succeed began roomy
    refine ⟨.inl (claim.toInt_leaseSeconds accepted), .inr ⟨current, rfl, rfl, counts, ?_⟩⟩
    rw [Int32.le_iff_toInt_le, counts]
    exact current.record.le_transitionsAfter candidate
  | vacates current own =>
    obtain rfl := Option.some.inj writes
    exact ⟨.inr ⟨rfl, rfl⟩, .inr ⟨current, rfl, rfl, (if_pos own).symm, Int32.le_refl _⟩⟩

/-- A record of somebody else, with numbers that no candidate writes. -/
def malformed : Versioned :=
  ⟨⟨"intruder", -2147483648, none, none, -1⟩, "7"⟩

/-- A candidate that has known the malformed record for some time and reads the lock again. -/
def rereading : Seat :=
  ⟨⟨.acquiring (.reading default), .acquiring,
    some ⟨malformed.record, malformed.version, 0⟩, false⟩, none, false⟩

/-- With the standard settings, the malformed record is taken over after fifteen seconds, and the
negative number counts on. -/
theorem counters_fit_after_malformed :
    let candidate : Candidate := ⟨"node-a", .standard⟩
    let now : Moment := ⟨15 * Duration.perSecond, default⟩
    let record := Attempt.succeed candidate default malformed.record
    candidate.timing.check = .ok () ∧
    (rereading.after candidate now (.reply (.got (.ok (some malformed))))).pending =
      some ⟨.update record malformed.version, none⟩ ∧
    record.transitions.toInt = malformed.record.transitionsAfter candidate ∧
    malformed.record.transitions ≤ record.transitions := by
  intro candidate now record
  have accepted : Timing.standard.check = .ok () := rfl
  have free : Attempt.isTaken candidate (Attempt.observe rereading.candidacy.observed malformed
      now.instant) now.instant = false := by decide +kernel
  have asked : (rereading.after candidate now (.reply (.got (.ok (some malformed))))).pending =
      some ⟨.update record malformed.version, none⟩ :=
    congrArg Seat.pending (after_free now free rfl)
  have fits := @counters_fit_iff candidate now (.reply (.got (.ok (some malformed)))) rereading
    accepted
  obtain ⟨-, -, written⟩ := fits
  obtain ⟨-, ⟨⟨⟩, -⟩ | ⟨current, read, -, counts, grows⟩⟩ := written _ _ asked nofun rfl
  obtain rfl : malformed = current := by simpa using read
  exact ⟨accepted, asked, counts, grows⟩

/-- A record that nobody holds any more, with the greatest number of changes of hands. -/
def full : Versioned :=
  ⟨⟨"", 1, none, none, 2147483647⟩, "1"⟩

/-- With the standard settings, a candidate that starts and reads the full record breaks down: it
takes no part any more and asks to write nothing. -/
theorem breaks_down_over_full :
    let candidate : Candidate := ⟨"node-a", .standard⟩
    let started := { Seat.vacant.after candidate default .start with pending := none }
    let reading := ElectionEvent.reply (.got (.ok (some full)))
    candidate.timing.check = .ok () ∧
    .breakDown ∈ started.actions candidate default reading ∧
    (started.after candidate default reading).candidacy.phase = .done ∧
    (started.after candidate default reading).pending = none := by
  exact ⟨rfl, .head _, rfl, rfl⟩

end Seat

end VolumeAttacher
