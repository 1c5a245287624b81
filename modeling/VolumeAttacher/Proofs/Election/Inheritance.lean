import VolumeAttacher.Proofs.Cluster.Registry
import VolumeAttacher.Proofs.Election.Duty
import VolumeAttacher.Proofs.Election.Incumbency
import VolumeAttacher.Proofs.Election.Takeover

/-!
# Inheritances

A candidate in time, before a lock that holds the record of a holder that is gone. The lock answers
every call at once and without a fault, and nobody else writes it. The candidate finds the record
unchanged after each of its pauses, so that it goes on counting from its first attempt. It takes
the lock over with the first attempt for which the record has been known as long as it is valid, and
only reads the lock before. The pauses end when their timers ring.
-/

namespace VolumeAttacher

/-- The candidate makes known that it seeks the lock, or reads the lock. -/
def ElectionAction.isSearch : ElectionAction → Bool
  | .publish .acquiring | .ask .get => true
  | _ => false

/-- A lock whose holder is gone, and a candidate that begins to seek it. -/
structure Legacy where
  candidate : Candidate
  /-- What the lock holds. -/
  left : Posting
  /-- What the lock held before. -/
  earlier : List Posting
  /-- The candidate as it was before it began. -/
  candidacy : Candidacy
  begun : Nat

namespace Legacy

variable (legacy : Legacy)

/-- How long the record is valid: as long as it says with a positive number, or else as long as the
candidate's own would be. -/
def span : Nat :=
  if 0 < legacy.left.record.leaseSeconds.toInt then
    legacy.left.record.leaseSeconds.toInt.toNat * Duration.perSecond
  else legacy.candidate.timing.lease.nanos

/-- The time of the attempt after so many pauses. -/
def attemptTime : Nat → Nat
  | 0 => legacy.begun
  | pauses + 1 => Duration.ring (attemptTime pauses + legacy.candidate.timing.retry.nanos)

/-- What the candidate knows of the record since its first attempt. -/
def sight : Observation := ⟨legacy.left.record, legacy.left.version, legacy.begun⟩

/-- The candidate did not see the record in this version before. -/
def IsUnseen : Prop :=
  ∀ seen ∈ legacy.candidacy.observed,
    seen.record = legacy.left.record → seen.version ≠ legacy.left.version

/-- The record with which the candidate takes the lock over. -/
def successor (began : Timestamp) : Record :=
  Attempt.succeed legacy.candidate began legacy.left.record

@[simp] theorem attemptTime_zero : legacy.attemptTime 0 = legacy.begun := rfl

theorem attemptTime_succ (pauses : Nat) :
    legacy.attemptTime (pauses + 1) =
      Duration.ring (legacy.attemptTime pauses + legacy.candidate.timing.retry.nanos) := rfl

theorem attemptTime_le_succ (pauses : Nat) :
    legacy.attemptTime pauses ≤ legacy.attemptTime (pauses + 1) :=
  Duration.le_ring_add ..

theorem attemptTime_mono {fewer more : Nat} (le : fewer ≤ more) :
    legacy.attemptTime fewer ≤ legacy.attemptTime more :=
  monotone_nat_of_le_succ legacy.attemptTime_le_succ le

/-- The pauses are at least as long as they are set for. -/
theorem le_attemptTime (pauses : Nat) :
    legacy.begun + pauses * legacy.candidate.timing.retry.nanos ≤ legacy.attemptTime pauses := by
  induction pauses with
  | zero => simp
  | succ pauses inductionHypothesis =>
    rw [attemptTime_succ, Nat.succ_mul, ← Nat.add_assoc]
    exact Nat.le_trans (Nat.add_le_add_right inductionHypothesis _) (Duration.le_ring _)

/-- In whole milliseconds, the pauses are just as long as they are set for. -/
theorem attemptTime_of_dvd
    (begun : Duration.perMilli ∣ legacy.begun)
    (retry : Duration.perMilli ∣ legacy.candidate.timing.retry.nanos)
    (pauses : Nat) :
    legacy.attemptTime pauses =
      legacy.begun + pauses * legacy.candidate.timing.retry.nanos := by
  induction pauses with
  | zero => simp
  | succ pauses inductionHypothesis =>
    have whole : Duration.perMilli ∣
        legacy.begun + (pauses + 1) * legacy.candidate.timing.retry.nanos :=
      Nat.dvd_add begun (Nat.dvd_mul_left_of_dvd retry _)
    rw [attemptTime_succ, inductionHypothesis, Nat.add_assoc, ← Nat.succ_mul]
    exact Duration.ring_eq_of_dvd whole

/-- The record expires within some number of pauses. -/
theorem exists_isLeast_pauses (accepted : legacy.candidate.timing.check = .ok ()) :
    ∃ rests, IsLeast {count | legacy.begun + legacy.span ≤ legacy.attemptTime count} rests := by
  have enough : ∃ count, legacy.begun + legacy.span ≤ legacy.attemptTime count := by
    refine ⟨legacy.span, Nat.le_trans (Nat.add_le_add_left ?_ _) (legacy.le_attemptTime _)⟩
    exact Nat.le_mul_of_pos_right _ (Timing.retry_pos accepted)
  exact ⟨_, Nat.isLeast_find enough⟩

theorem nanos_validity :
    (Attempt.validity legacy.candidate legacy.left.record).nanos = legacy.span := by
  unfold Attempt.validity Record.leaseDuration span
  split <;> rfl

/-- A record that the candidate did not see before counts from the first attempt. -/
theorem observe_first (unseen : legacy.IsUnseen) :
    Attempt.observe legacy.candidacy.observed legacy.left.versioned (legacy.attemptTime 0) =
      legacy.sight := by
  rw [attemptTime_zero]
  unfold Attempt.observe
  split
  · next seen known =>
    have new : ¬(seen.record = legacy.left.record ∧ seen.version = legacy.left.version) :=
      fun same => unseen seen known same.1 same.2
    exact if_neg new
  · rfl

/-- A record that is read again goes on counting. -/
theorem observe_sight (instant : Nat) :
    Attempt.observe (some legacy.sight) legacy.left.versioned instant = legacy.sight :=
  if_pos ⟨rfl, rfl⟩

/-- The record of somebody else is valid until it has been known for long enough. -/
theorem isTaken_sight_iff
    (held : legacy.left.record.isHeld)
    (foreign : legacy.left.record.holder ≠ legacy.candidate.identity)
    (instant : Nat) :
    Attempt.isTaken legacy.candidate legacy.sight instant = true ↔
      instant < legacy.begun + legacy.span := by
  simp [Attempt.isTaken, Attempt.isExpired, sight, held, foreign, nanos_validity]

end Legacy

/-- A candidate and a lock in time, and what the candidate did. -/
structure Inheritance where
  now : Nat
  /-- What the lock held, the present record first. -/
  postings : List Posting
  seat : Seat
  /-- What the candidate did, and when. -/
  deeds : List (Nat × ElectionAction)

namespace Inheritance

/-- The candidate goes through a step. -/
def perform (inheritance : Inheritance) (step : Candidacy.Step) : Inheritance :=
  { inheritance with
      seat := step.2.foldl Seat.act { inheritance.seat with candidacy := step.1 }
      deeds := inheritance.deeds ++ step.2.map (inheritance.now, ·) }

/-- The candidate begins to seek the lock. -/
def opening (legacy : Legacy) (clock : Timestamp) : Inheritance :=
  perform ⟨legacy.begun, legacy.left :: legacy.earlier, ⟨legacy.candidacy, none, false⟩, []⟩
    (legacy.candidacy.acquire ⟨legacy.begun, clock⟩)

/-- The candidate gets an event. -/
def after
    (candidate : Candidate)
    (inheritance : Inheritance)
    (clock : Timestamp)
    (event : ElectionEvent) : Inheritance :=
  perform { inheritance with seat := inheritance.seat.prepared event }
    (inheritance.seat.candidacy.step candidate ⟨inheritance.now, clock⟩ event)

/-- One step: something other than an answer or an order to stop happens to the candidate, the lock
deals with the pending call and answers it without a fault, or time passes. It does not pass while
the candidate waits for an answer, nor beyond the moment at which the candidate goes on by itself.
-/
inductive Step (candidate : Candidate) : Inheritance → Inheritance → Prop
  | occurs (inheritance : Inheritance) (clock : Timestamp) (event : ElectionEvent)
      (other : event = .start ∨ event = .tick ∨ event = .workEnded) :
    Step candidate inheritance (inheritance.after candidate clock event)
  | answers (inheritance : Inheritance) (clock : Timestamp) (call : LockCall)
      (postings : List Posting) (reply : LockReply)
      (pending : inheritance.seat.pending = some ⟨call, none⟩)
      (serves : LockServes inheritance.now inheritance.postings call postings reply)
      (faultless : reply.isFault = false) :
    Step candidate inheritance
      ({ inheritance with postings }.after candidate clock (.reply reply))
  | wait (inheritance : Inheritance) (moment : Nat)
      (later : inheritance.now ≤ moment)
      (timer : ∀ time, inheritance.seat.candidacy.timer? = some time → moment ≤ time)
      (answered : inheritance.seat.pending = none) :
    Step candidate inheritance { inheritance with now := moment }

/-- What may follow from one state. -/
abbrev Leads (candidate : Candidate) : Inheritance → Inheritance → Prop :=
  Relation.ReflTransGen (Step candidate)

/-- What comes about once the candidate begins. -/
def Reachable (legacy : Legacy) (inheritance : Inheritance) : Prop :=
  ∃ clock, Leads legacy.candidate (opening legacy clock) inheritance

/-- The candidate seeks the lock, which holds what it held. -/
def IsOpen (legacy : Legacy) (inheritance : Inheritance) : Prop :=
  inheritance.seat.candidacy.leadership = .acquiring ∧
    inheritance.postings = legacy.left :: legacy.earlier

/-- The candidate took the lock over at a time, and made it known then. -/
structure IsTakenOver (legacy : Legacy) (time : Nat) (inheritance : Inheritance) : Prop where
  written : ∃ began version,
    ⟨legacy.successor began, version, time⟩ :: legacy.left :: legacy.earlier <:+
      inheritance.postings
  known : (time, .publish .held) ∈ inheritance.deeds

/-- The candidate takes the lock over at a time, which is the present one. -/
structure TakesOver (legacy : Legacy) (time : Nat) (inheritance : Inheritance) : Prop
    extends inheritance.IsTakenOver legacy time where
  present : inheritance.now = time
  holds : inheritance.seat.candidacy.leadership = .held

/-- Whatever was done before a time was part of the search. -/
def IsPatient (due : Nat) (deeds : List (Nat × ElectionAction)) : Prop :=
  ∀ deed ∈ deeds, deed.2.isSearch = true ∨ due ≤ deed.1

section Perform

variable {legacy : Legacy} {inheritance : Inheritance} {due : Nat} {step : Candidacy.Step}

theorem after_of_step
    {candidate : Candidate}
    {clock : Timestamp}
    {event : ElectionEvent}
    (next : inheritance.seat.candidacy.step candidate ⟨inheritance.now, clock⟩ event = step) :
    inheritance.after candidate clock event =
      perform { inheritance with seat := inheritance.seat.prepared event } step := by
  rw [← next, after]

theorem IsPatient.append
    {deeds fresh : List (Nat × ElectionAction)}
    (patient : IsPatient due deeds)
    (rest : IsPatient due fresh) :
    IsPatient due (deeds ++ fresh) := by
  intro deed present
  obtain before | new := List.mem_append.mp present
  · exact patient deed before
  · exact rest deed new

/-- Once it is due, the candidate may do anything. -/
theorem IsPatient.perform
    (patient : IsPatient due inheritance.deeds)
    (late : due ≤ inheritance.now) :
    IsPatient due (inheritance.perform step).deeds := by
  refine patient.append fun deed new => .inr ?_
  obtain ⟨action, -, rfl⟩ := List.mem_map.mp new
  exact late

/-- A takeover stays one, whatever the candidate does. -/
theorem IsTakenOver.perform (takenOver : IsTakenOver legacy due inheritance) :
    IsTakenOver legacy due (inheritance.perform step) :=
  ⟨takenOver.written, List.mem_append_left _ takenOver.known⟩

/-- A takeover stays one, whatever else the lock takes up. -/
theorem IsTakenOver.serves
    {call : LockCall}
    {postings : List Posting}
    {reply : LockReply}
    (takenOver : IsTakenOver legacy due inheritance)
    (serves : LockServes inheritance.now inheritance.postings call postings reply) :
    IsTakenOver legacy due { inheritance with postings } := by
  refine ⟨?_, takenOver.known⟩
  obtain ⟨began, version, written⟩ := takenOver.written
  refine ⟨began, version, ?_⟩
  obtain rfl | ⟨posted, rfl⟩ := serves.eq_or_eq_cons
  · exact written
  · exact written.trans (List.suffix_cons posted inheritance.postings)

end Perform

/-! ## The search -/

section Search

variable (legacy : Legacy)

/-- The candidate reads the lock after so many pauses. -/
def reading
    (pauses : Nat)
    (began : Timestamp)
    (observed : Option Observation)
    (isWorking : Bool)
    (deeds : List (Nat × ElectionAction)) : Inheritance where
  now := legacy.attemptTime pauses
  postings := legacy.left :: legacy.earlier
  seat := ⟨⟨.acquiring (.reading began), .acquiring, observed, false⟩, some ⟨.get, none⟩, isWorking⟩
  deeds := deeds

/-- The candidate knows the record and pauses after an attempt. -/
def pausing
    (pauses now : Nat)
    (isWorking : Bool)
    (deeds : List (Nat × ElectionAction)) : Inheritance where
  now := now
  postings := legacy.left :: legacy.earlier
  seat :=
    ⟨⟨.pausing (legacy.attemptTime pauses + legacy.candidate.timing.retry.nanos), .acquiring,
      some legacy.sight, false⟩, none, isWorking⟩
  deeds := deeds

/-- The candidate asks to replace the record after so many pauses. -/
def writing
    (pauses : Nat)
    (began : Timestamp)
    (isWorking : Bool)
    (deeds : List (Nat × ElectionAction)) : Inheritance where
  now := legacy.attemptTime pauses
  postings := legacy.left :: legacy.earlier
  seat :=
    ⟨⟨.acquiring (.updating (legacy.successor began)), .acquiring, some legacy.sight, false⟩,
      some ⟨.update (legacy.successor began) legacy.left.version, none⟩, isWorking⟩
  deeds := deeds

/-- Where a search is that takes so many pauses. -/
inductive Stage (rests : Nat) : Inheritance → Prop
  | reads (pauses : Nat) (began : Timestamp) (observed : Option Observation) (isWorking : Bool)
      (deeds : List (Nat × ElectionAction))
      (early : pauses ≤ rests)
      (sees : Attempt.observe observed legacy.left.versioned (legacy.attemptTime pauses) =
        legacy.sight) :
    Stage rests (reading legacy pauses began observed isWorking deeds)
  | pauses (pauses now : Nat) (isWorking : Bool) (deeds : List (Nat × ElectionAction))
      (early : pauses < rests)
      (inTime : now ≤ legacy.attemptTime (pauses + 1)) :
    Stage rests (pausing legacy pauses now isWorking deeds)
  | writes (began : Timestamp) (isWorking : Bool) (deeds : List (Nat × ElectionAction)) :
    Stage rests (writing legacy rests began isWorking deeds)
  | ends (inheritance : Inheritance)
      (takenOver : IsTakenOver legacy (legacy.attemptTime rests) inheritance)
      (late : legacy.attemptTime rests ≤ inheritance.now) :
    Stage rests inheritance

/-- A search that takes so many pauses, and in which nothing is done too early. -/
structure IsOnTime (rests : Nat) (inheritance : Inheritance) : Prop where
  stage : Stage legacy rests inheritance
  patient : IsPatient (legacy.attemptTime rests) inheritance.deeds

/-- The record is held by somebody else, who may be followed, and the pauses are the least number of
them in which it expires. -/
structure IsDue (rests : Nat) : Prop where
  held : legacy.left.record.isHeld = true
  foreign : legacy.left.record.holder ≠ legacy.candidate.identity
  fits : legacy.left.record.transitions ≠ Int32.maxValue
  least : IsLeast {count | legacy.begun + legacy.span ≤ legacy.attemptTime count} rests

end Search

variable {legacy : Legacy} {rests pauses : Nat} {clock began : Timestamp}
  {observed : Option Observation} {isWorking : Bool} {deeds : List (Nat × ElectionAction)}

theorem IsDue.isTaken_of_lt (isDue : IsDue legacy rests) (early : pauses < rests) :
    Attempt.isTaken legacy.candidate legacy.sight (legacy.attemptTime pauses) = true := by
  rw [legacy.isTaken_sight_iff isDue.held isDue.foreign]
  exact Nat.lt_of_not_le fun enough => Nat.not_le_of_lt early (isDue.least.2 enough)

theorem IsDue.isTaken_eq_false (isDue : IsDue legacy rests) :
    Attempt.isTaken legacy.candidate legacy.sight (legacy.attemptTime rests) = false := by
  rw [Bool.eq_false_iff, ne_eq, legacy.isTaken_sight_iff isDue.held isDue.foreign]
  exact Nat.not_lt_of_le isDue.least.1

theorem IsDue.overflows_eq_false (isDue : IsDue legacy rests) :
    Attempt.overflows legacy.candidate legacy.left.versioned.record = false := by
  simp [Attempt.overflows, Posting.versioned, isDue.fits]

/-- A candidate that reads the record too early pauses. -/
theorem after_reading_of_lt
    (isDue : IsDue legacy rests)
    (early : pauses < rests)
    (sees : Attempt.observe observed legacy.left.versioned (legacy.attemptTime pauses) =
      legacy.sight) :
    (reading legacy pauses began observed isWorking deeds).after legacy.candidate clock
        (.reply (.got (.ok (some legacy.left.versioned)))) =
      pausing legacy pauses (legacy.attemptTime pauses) isWorking deeds := by
  have taken := isDue.isTaken_of_lt early
  rw [← sees] at taken
  rw [after_of_step (Candidacy.step_taken ⟨legacy.attemptTime pauses, clock⟩ taken), sees]
  simp [perform, reading, pausing, Seat.prepared]

/-- A candidate that reads the record when it is due asks to replace it. -/
theorem after_reading
    (isDue : IsDue legacy rests)
    (sees : Attempt.observe observed legacy.left.versioned (legacy.attemptTime rests) =
      legacy.sight) :
    (reading legacy rests began observed isWorking deeds).after legacy.candidate clock
        (.reply (.got (.ok (some legacy.left.versioned)))) =
      writing legacy rests began isWorking (deeds ++ [(legacy.attemptTime rests,
        .ask (.update (legacy.successor began) legacy.left.version))]) := by
  have free := isDue.isTaken_eq_false
  rw [← sees] at free
  rw [after_of_step (Candidacy.step_free ⟨legacy.attemptTime rests, clock⟩ free
    isDue.overflows_eq_false), sees]
  rfl

/-- A candidate whose pause is over reads the record again. -/
theorem after_pausing :
    (pausing legacy pauses (legacy.attemptTime (pauses + 1)) isWorking deeds).after
        legacy.candidate clock .tick =
      reading legacy (pauses + 1) clock (some legacy.sight) isWorking
        (deeds ++ [(legacy.attemptTime (pauses + 1), .ask .get)]) := by
  rw [after_of_step
    (Candidacy.step_pausing ⟨legacy.attemptTime (pauses + 1), clock⟩ (Nat.le_refl _))]
  rfl

/-- A candidate whose record is accepted takes the lock over. -/
theorem takesOver_after_writing (version : String) :
    TakesOver legacy (legacy.attemptTime rests)
      (after legacy.candidate
        { writing legacy rests began isWorking deeds with
          postings := ⟨legacy.successor began, version, legacy.attemptTime rests⟩ ::
            legacy.left :: legacy.earlier }
        clock (.reply (.written (.ok ())))) where
  written := ⟨began, version, List.suffix_refl _⟩
  known := List.mem_append_right _ List.mem_cons_self
  present := rfl
  holds := rfl

/-! ## What every step preserves -/

section Step

variable {inheritance next : Inheritance}

theorem after_unchanged
    {candidate : Candidate}
    {event : ElectionEvent}
    (same : inheritance.seat.candidacy.step candidate ⟨inheritance.now, clock⟩ event =
      (inheritance.seat.candidacy, [])) :
    inheritance.after candidate clock event =
      { inheritance with seat := inheritance.seat.prepared event } := by
  rw [after_of_step same]
  cases event <;> simp [perform, Seat.prepared]

/-- A takeover that is due stays one, whatever the candidate does. -/
theorem isOnTime_perform_of_isTakenOver
    {step : Candidacy.Step}
    (takenOver : IsTakenOver legacy (legacy.attemptTime rests) inheritance)
    (late : legacy.attemptTime rests ≤ inheritance.now)
    (patient : IsPatient (legacy.attemptTime rests) inheritance.deeds) :
    IsOnTime legacy rests (inheritance.perform step) :=
  ⟨.ends _ takenOver.perform late, patient.perform late⟩

theorem IsOnTime.occurs
    {event : ElectionEvent}
    (isOnTime : IsOnTime legacy rests inheritance)
    (clock : Timestamp)
    (other : event = .start ∨ event = .tick ∨ event = .workEnded) :
    IsOnTime legacy rests (inheritance.after legacy.candidate clock event) := by
  obtain ⟨stage, patient⟩ := isOnTime
  cases stage with
  | reads pauses began observed isWorking deeds early sees =>
    obtain rfl | rfl | rfl := other <;> rw [after_unchanged rfl]
    · exact ⟨.reads pauses began observed isWorking deeds early sees, patient⟩
    · exact ⟨.reads pauses began observed isWorking deeds early sees, patient⟩
    · exact ⟨.reads pauses began observed false deeds early sees, patient⟩
  | pauses pauses now isWorking deeds early inTime =>
    obtain rfl | rfl | rfl := other
    · rw [after_unchanged rfl]
      exact ⟨.pauses pauses now isWorking deeds early inTime, patient⟩
    · obtain waits | due := Nat.lt_or_ge now (legacy.attemptTime (pauses + 1))
      · have notYet : ¬legacy.attemptTime (pauses + 1) ≤ now := Nat.not_le_of_lt waits
        rw [Legacy.attemptTime_succ] at notYet
        rw [after_unchanged (by simp [Candidacy.step, Candidacy.timer?, pausing, notYet])]
        exact ⟨.pauses pauses now isWorking deeds early inTime, patient⟩
      · obtain rfl := Nat.le_antisymm inTime due
        rw [after_pausing]
        refine ⟨.reads _ _ _ _ _ early (legacy.observe_sight _), patient.append ?_⟩
        exact List.forall_mem_singleton.mpr (.inl rfl)
    · rw [after_unchanged rfl]
      exact ⟨.pauses pauses now false deeds early inTime, patient⟩
  | writes began isWorking deeds =>
    obtain rfl | rfl | rfl := other <;> rw [after_unchanged rfl]
    · exact ⟨.writes began isWorking deeds, patient⟩
    · exact ⟨.writes began isWorking deeds, patient⟩
    · exact ⟨.writes began false deeds, patient⟩
  | ends _ takenOver late =>
    exact isOnTime_perform_of_isTakenOver ⟨takenOver.written, takenOver.known⟩ late patient

theorem IsOnTime.answers
    {call : LockCall}
    {postings : List Posting}
    {reply : LockReply}
    (isOnTime : IsOnTime legacy rests inheritance)
    (isDue : IsDue legacy rests)
    (clock : Timestamp)
    (pending : inheritance.seat.pending = some ⟨call, none⟩)
    (serves : LockServes inheritance.now inheritance.postings call postings reply)
    (faultless : reply.isFault = false) :
    IsOnTime legacy rests
      ({ inheritance with postings }.after legacy.candidate clock (.reply reply)) := by
  obtain ⟨stage, patient⟩ := isOnTime
  cases stage with
  | reads pauses began observed isWorking deeds early sees =>
    obtain rfl : LockCall.get = call := congrArg PendingCall.call (Option.some.inj pending)
    cases serves with
    | refuse => cases faultless
    | read =>
      change IsOnTime legacy rests ((reading legacy pauses began observed isWorking deeds).after
        legacy.candidate clock (.reply (.got (.ok (some legacy.left.versioned)))))
      -- Only the last reading finds the record expired.
      obtain early | rfl := Nat.lt_or_eq_of_le early
      · rw [after_reading_of_lt isDue early sees]
        exact ⟨.pauses _ _ _ _ early (legacy.attemptTime_le_succ pauses), patient⟩
      · rw [after_reading isDue sees]
        refine ⟨.writes _ _ _, patient.append ?_⟩
        exact List.forall_mem_singleton.mpr (.inr (Nat.le_refl _))
  | pauses => cases pending
  | writes began isWorking deeds =>
    obtain rfl : LockCall.update (legacy.successor began) legacy.left.version = call :=
      congrArg PendingCall.call (Option.some.inj pending)
    cases serves with
    | refuse => cases faultless
    | update _ _ _ version result =>
      cases result with
      | error => cases faultless
      | ok =>
        refine ⟨.ends _ (takesOver_after_writing version).toIsTakenOver (Nat.le_refl _), ?_⟩
        exact patient.perform (Nat.le_refl _)
  | ends _ takenOver late =>
    have kept := takenOver.serves serves
    exact isOnTime_perform_of_isTakenOver ⟨kept.written, kept.known⟩ late patient

theorem IsOnTime.wait
    {moment : Nat}
    (isOnTime : IsOnTime legacy rests inheritance)
    (later : inheritance.now ≤ moment)
    (timer : ∀ time, inheritance.seat.candidacy.timer? = some time → moment ≤ time)
    (answered : inheritance.seat.pending = none) :
    IsOnTime legacy rests { inheritance with now := moment } := by
  obtain ⟨stage, patient⟩ := isOnTime
  cases stage with
  | reads | writes => cases answered
  | pauses pauses now isWorking deeds early inTime =>
    exact ⟨.pauses pauses moment isWorking deeds early (timer _ rfl), patient⟩
  | ends _ takenOver late =>
    exact ⟨.ends _ ⟨takenOver.written, takenOver.known⟩ (Nat.le_trans late later), patient⟩

/-- Every step keeps a search on time. -/
theorem IsOnTime.step
    (isOnTime : IsOnTime legacy rests inheritance)
    (isDue : IsDue legacy rests)
    (step : Step legacy.candidate inheritance next) :
    IsOnTime legacy rests next := by
  cases step with
  | occurs clock event other => exact isOnTime.occurs clock other
  | answers clock call postings reply pending serves faultless =>
    exact isOnTime.answers isDue clock pending serves faultless
  | wait moment later timer answered => exact isOnTime.wait later timer answered

/-- A candidate that was not told to stop begins with a reading. -/
theorem opening_eq_reading (untold : legacy.candidacy.shutDown = false) (clock : Timestamp) :
    opening legacy clock =
      reading legacy 0 clock legacy.candidacy.observed false
        [(legacy.begun, .publish .acquiring), (legacy.begun, .ask .get)] := by
  obtain ⟨candidate, left, earlier, ⟨phase, leadership, observed, shutDown⟩, begun⟩ := legacy
  obtain rfl : shutDown = false := untold
  unfold reading
  rw [Legacy.attemptTime_zero]
  rfl

/-- A search is on time, whatever comes about. -/
theorem Reachable.isOnTime
    (reachable : Reachable legacy inheritance)
    (isDue : IsDue legacy rests)
    (untold : legacy.candidacy.shutDown = false)
    (unseen : legacy.IsUnseen) :
    IsOnTime legacy rests inheritance := by
  obtain ⟨clock, leads⟩ := reachable
  induction leads with
  | refl =>
    rw [opening_eq_reading untold clock]
    refine ⟨.reads 0 clock _ false _ (Nat.zero_le _) (legacy.observe_first unseen), ?_⟩
    exact List.forall_mem_cons.mpr ⟨.inl rfl, List.forall_mem_singleton.mpr (.inl rfl)⟩
  | tail _ step isOnTime => exact isOnTime.step isDue step

end Step

/-! ## The way to the takeover -/

section Takeover

/-- The lock accepts the record of a candidate that asks to replace the one that was left. -/
theorem leads_of_writing :
    ∃ later, Leads legacy.candidate (writing legacy rests began isWorking deeds) later ∧
      later.TakesOver legacy (legacy.attemptTime rests) := by
  obtain ⟨version, unused⟩ :=
    Registry.exists_unused ((legacy.left :: legacy.earlier).map Posting.version)
  have serves : LockServes (legacy.attemptTime rests) (legacy.left :: legacy.earlier)
      (.update (legacy.successor began) legacy.left.version) _ (.written (.ok ())) :=
    .update legacy.left legacy.earlier _ version (.ok ()) unused
  exact ⟨_, .single (.answers _ default _ _ _ rfl serves rfl), takesOver_after_writing version⟩

/-- The lock answers a candidate that reads it. -/
theorem step_reading (clock : Timestamp) :
    Step legacy.candidate (reading legacy pauses began observed isWorking deeds)
      ((reading legacy pauses began observed isWorking deeds).after legacy.candidate clock
        (.reply (.got (.ok (some legacy.left.versioned))))) :=
  .answers _ clock .get _ _ rfl (.read _) rfl

/-- A pause comes to its end. -/
theorem leads_of_pausing
    {now : Nat}
    (inTime : now ≤ legacy.attemptTime (pauses + 1))
    (clock : Timestamp) :
    Leads legacy.candidate (pausing legacy pauses now isWorking deeds)
      (reading legacy (pauses + 1) clock (some legacy.sight) isWorking
        (deeds ++ [(legacy.attemptTime (pauses + 1), .ask .get)])) := by
  have waits : Step legacy.candidate (pausing legacy pauses now isWorking deeds)
      (pausing legacy pauses (legacy.attemptTime (pauses + 1)) isWorking deeds) := by
    refine .wait _ _ inTime ?_ rfl
    rintro _ ⟨⟩
    exact Nat.le_refl _
  refine .tail (.single waits) ?_
  rw [← after_pausing]
  exact .occurs _ clock .tick (.inr (.inl rfl))

/-- A candidate that reads the lock takes it over after the pauses that are left. -/
theorem leads_of_reading
    (isDue : IsDue legacy rests)
    (remaining : Nat)
    (together : pauses + remaining = rests)
    (sees : Attempt.observe observed legacy.left.versioned (legacy.attemptTime pauses) =
      legacy.sight) :
    ∃ later, Leads legacy.candidate (reading legacy pauses began observed isWorking deeds) later ∧
      later.TakesOver legacy (legacy.attemptTime rests) := by
  -- What the candidate observed before is left open: the first reading finds nothing known, and
  -- each later one what the first one saw.
  induction remaining generalizing pauses began observed deeds with
  | zero =>
    obtain rfl : pauses = rests := together
    have asks : Step legacy.candidate (reading legacy pauses began observed isWorking deeds) _ :=
      step_reading default
    rw [after_reading isDue sees] at asks
    obtain ⟨later, leads, takesOver⟩ := leads_of_writing
    exact ⟨later, .head asks leads, takesOver⟩
  | succ remaining inductionHypothesis =>
    have asks : Step legacy.candidate (reading legacy pauses began observed isWorking deeds) _ :=
      step_reading default
    rw [after_reading_of_lt isDue (by omega) sees] at asks
    have inTime := legacy.attemptTime_le_succ pauses
    obtain ⟨later, leads, takesOver⟩ :=
      inductionHypothesis (by omega) (legacy.observe_sight (legacy.attemptTime (pauses + 1)))
    exact ⟨later, .head asks ((leads_of_pausing inTime default).trans leads), takesOver⟩

/-- A lock that was taken over is not open. -/
theorem IsTakenOver.not_isOpen
    {inheritance : Inheritance}
    {time : Nat}
    (takenOver : IsTakenOver legacy time inheritance) :
    ¬inheritance.IsOpen legacy := by
  rintro ⟨-, kept⟩
  obtain ⟨began, version, written⟩ := takenOver.written
  have longer := written.length_le
  rw [kept] at longer
  exact Nat.not_succ_le_self _ longer

/-- As long as the lock is open, a search that is on time may come to the takeover. -/
theorem IsOnTime.leads_of_isOpen
    {inheritance : Inheritance}
    (isOnTime : IsOnTime legacy rests inheritance)
    (isDue : IsDue legacy rests)
    (isOpen : inheritance.IsOpen legacy) :
    ∃ later, Leads legacy.candidate inheritance later ∧
      later.TakesOver legacy (legacy.attemptTime rests) := by
  cases isOnTime.stage with
  | reads pauses began observed isWorking deeds early sees =>
    exact leads_of_reading isDue (rests - pauses) (Nat.add_sub_of_le early) sees
  | pauses pauses now isWorking deeds early inTime =>
    have sees := legacy.observe_sight (legacy.attemptTime (pauses + 1))
    obtain ⟨later, leads, takesOver⟩ :=
      leads_of_reading isDue (rests - (pauses + 1)) (Nat.add_sub_of_le early) sees
    exact ⟨later, (leads_of_pausing inTime default).trans leads, takesOver⟩
  | writes began isWorking deeds => exact leads_of_writing
  | ends _ takenOver late => exact absurd isOpen takenOver.not_isOpen

/-- Before the time of the takeover the lock is open, and after it the lock is taken over. -/
theorem IsOnTime.isOpen_or_isTakenOver
    {inheritance : Inheritance}
    (isOnTime : IsOnTime legacy rests inheritance) :
    inheritance.IsOpen legacy ∧ inheritance.now ≤ legacy.attemptTime rests ∨
      inheritance.IsTakenOver legacy (legacy.attemptTime rests) ∧
        legacy.attemptTime rests ≤ inheritance.now := by
  cases isOnTime.stage with
  | reads pauses began observed isWorking deeds early sees =>
    exact .inl ⟨⟨rfl, rfl⟩, legacy.attemptTime_mono early⟩
  | pauses pauses now isWorking deeds early inTime =>
    exact .inl ⟨⟨rfl, rfl⟩, Nat.le_trans inTime (legacy.attemptTime_mono early)⟩
  | writes began isWorking deeds => exact .inl ⟨⟨rfl, rfl⟩, Nat.le_refl _⟩
  | ends _ takenOver late => exact .inr ⟨takenOver, late⟩

end Takeover

/-- A candidate with accepted settings that begins to seek a lock, which holds a record of somebody
else that the candidate did not see before, that nobody changes any more and that does not count as
many changes of hands as it can, takes the lock over at one time only: after the least number of
pauses in which the record expires, counted from its first attempt. Up to this time the candidate
only reads the lock, which holds what it held, and is known to seek it. Time does not pass this
moment before the takeover, to which every search may come. -/
theorem takes_over_when_due
    (legacy : Legacy)
    (accepted : legacy.candidate.timing.check = .ok ())
    (held : legacy.left.record.isHeld = true)
    (foreign : legacy.left.record.holder ≠ legacy.candidate.identity)
    (fits : legacy.left.record.transitions ≠ Int32.maxValue)
    (untold : legacy.candidacy.shutDown = false)
    (unseen : legacy.IsUnseen) :
    ∃ rests, IsLeast {count | legacy.begun + legacy.span ≤ legacy.attemptTime count} rests ∧
      ∀ inheritance, Reachable legacy inheritance →
        (inheritance.IsOpen legacy ∧ inheritance.now ≤ legacy.attemptTime rests ∨
          inheritance.IsTakenOver legacy (legacy.attemptTime rests) ∧
            legacy.attemptTime rests ≤ inheritance.now) ∧
        IsPatient (legacy.attemptTime rests) inheritance.deeds ∧
        (inheritance.IsOpen legacy → ∃ later, Leads legacy.candidate inheritance later ∧
          later.TakesOver legacy (legacy.attemptTime rests)) := by
  obtain ⟨rests, least⟩ := legacy.exists_isLeast_pauses accepted
  have isDue : IsDue legacy rests := ⟨held, foreign, fits, least⟩
  refine ⟨rests, least, fun inheritance reachable => ?_⟩
  have isOnTime := reachable.isOnTime isDue untold unseen
  exact ⟨isOnTime.isOpen_or_isTakenOver, isOnTime.patient, isOnTime.leads_of_isOpen isDue⟩

/-- A record of seven seconds, renewed in a distant future, whose holder is gone. A candidate that
lost the lock last saw another version of it. -/
def deserted : Legacy where
  candidate := ⟨"node-b", .standard⟩
  left := ⟨⟨"node-a", 7, none, some ⟨4102444800, 0⟩, 3⟩, "9", 0⟩
  earlier := []
  candidacy := ⟨.stopping .lost 0, .released,
    some ⟨⟨"node-a", 7, none, some ⟨4102444800, 0⟩, 3⟩, "8", 0⟩, false⟩
  begun := 3 * Duration.perSecond

/-- With the standard settings, the candidate takes the lock over after two pauses, which is ten
seconds after it began. -/
theorem takes_over_after_two_pauses :
    deserted.candidate.timing.check = .ok () ∧
      deserted.left.record.isHeld = true ∧
      deserted.left.record.holder ≠ deserted.candidate.identity ∧
      deserted.left.record.transitions ≠ Int32.maxValue ∧
      deserted.candidacy.shutDown = false ∧ deserted.IsUnseen ∧
      ∃ later, Reachable deserted later ∧
        later.TakesOver deserted (13 * Duration.perSecond) := by
  have accepted : deserted.candidate.timing.check = .ok () := rfl
  have foreign : deserted.left.record.holder ≠ deserted.candidate.identity := by decide
  have fits : deserted.left.record.transitions ≠ Int32.maxValue := by decide
  have unseen : deserted.IsUnseen := by
    rintro _ ⟨⟩ -
    decide
  obtain ⟨rests, least, course⟩ :=
    takes_over_when_due deserted accepted rfl foreign fits rfl unseen
  have two : IsLeast {count | deserted.begun + deserted.span ≤ deserted.attemptTime count} 2 := by
    refine ⟨by decide, fun count enough => ?_⟩
    have begun : deserted.begun = 3000000000 := rfl
    have span : deserted.span = 7000000000 := by decide
    have retry : deserted.candidate.timing.retry.nanos = 5000000000 := rfl
    rw [Set.mem_ofPred_eq, deserted.attemptTime_of_dvd (by decide) (by decide), begun, span,
      retry] at enough
    omega
  obtain rfl := least.unique two
  obtain ⟨-, -, leads⟩ := course (opening deserted default) ⟨default, .refl⟩
  obtain ⟨later, leads, takesOver⟩ := leads ⟨rfl, rfl⟩
  exact ⟨accepted, rfl, foreign, fits, rfl, unseen, later, ⟨default, leads⟩, takesOver⟩

/-- A record of one second whose holder is gone, and a candidate whose time between attempts is not a
number of whole milliseconds. -/
def offBeat : Legacy where
  candidate := ⟨"node-b", ⟨.ofSeconds 15, .ofSeconds 10, ⟨333400000⟩, .ofSeconds 10⟩⟩
  left := ⟨⟨"node-a", 1, none, none, 3⟩, "9", 0⟩
  earlier := []
  candidacy := .idle
  begun := 0

/-- With attempts every 333.4 milliseconds, three pauses and no fewer take as long as the record is
valid. But the timers for the pauses ring after 334 milliseconds, so that the candidate never takes
the lock over after 1000.2 milliseconds, but after 1002. -/
theorem takeover_comes_with_the_timers :
    offBeat.candidate.timing.check = .ok () ∧
      offBeat.left.record.isHeld = true ∧
      offBeat.left.record.holder ≠ offBeat.candidate.identity ∧
      offBeat.left.record.transitions ≠ Int32.maxValue ∧
      offBeat.candidacy.shutDown = false ∧ offBeat.IsUnseen ∧
      IsLeast {count | offBeat.span ≤ count * offBeat.candidate.timing.retry.nanos} 3 ∧
      (∀ inheritance, Reachable offBeat inheritance → ¬inheritance.TakesOver offBeat
        (offBeat.begun + 3 * offBeat.candidate.timing.retry.nanos)) ∧
      ∃ later, Reachable offBeat later ∧ later.TakesOver offBeat (1002 * Duration.perMilli) := by
  have accepted : offBeat.candidate.timing.check = .ok () := by decide +kernel
  have foreign : offBeat.left.record.holder ≠ offBeat.candidate.identity := by decide
  have fits : offBeat.left.record.transitions ≠ Int32.maxValue := by decide
  have unseen : offBeat.IsUnseen := nofun
  have three : IsLeast {count | offBeat.span ≤ count * offBeat.candidate.timing.retry.nanos} 3 := by
    refine ⟨by decide, fun count enough => ?_⟩
    have span : offBeat.span = 1000000000 := by decide
    have retry : offBeat.candidate.timing.retry.nanos = 333400000 := rfl
    rw [Set.mem_ofPred_eq, span, retry] at enough
    omega
  have due : IsLeast {count | offBeat.begun + offBeat.span ≤ offBeat.attemptTime count} 3 := by
    refine ⟨by decide, fun count enough => ?_⟩
    by_contra few
    have early := offBeat.attemptTime_mono (Nat.le_of_lt_succ (Nat.lt_of_not_le few))
    exact absurd (Nat.le_trans enough early) (by decide)
  have isDue : IsDue offBeat 3 := ⟨rfl, foreign, fits, due⟩
  refine ⟨accepted, rfl, foreign, fits, rfl, unseen, three, ?_, ?_⟩
  · intro inheritance reachable takesOver
    obtain search | late := (reachable.isOnTime isDue rfl unseen).patient _ takesOver.known
    · cases search
    · exact absurd late (by decide)
  · have opened : Reachable offBeat (opening offBeat default) := ⟨default, .refl⟩
    obtain ⟨later, leads, takesOver⟩ :=
      (opened.isOnTime isDue rfl unseen).leads_of_isOpen isDue ⟨rfl, rfl⟩
    exact ⟨later, ⟨default, leads⟩, takesOver⟩

end Inheritance

end VolumeAttacher
