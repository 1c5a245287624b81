import Mathlib.Tactic.SplitIfs
import VolumeAttacher.Proofs.Election.Turn

/-!
# Entitlement to write

A candidate writes a record only where it is entitled to: over nothing, over a record that nobody
holds or that it holds itself, or over one that was written at least as long ago as it is valid.
This holds at the time the call is made, and so at any time the lock may deal with it, because a
version names one posting for ever. What makes it so is that a candidate never believes a record of
somebody else to be older than it is.
-/

namespace VolumeAttacher

/-- A record that a candidate writes to get or to keep the lock. -/
structure Record.IsClaimOf (record : Record) (candidate : Candidate) : Prop where
  holder : record.holder = candidate.identity
  leaseSeconds : record.leaseSeconds = Int32.ofNat candidate.timing.lease.seconds

/-- The lock took up a record in a version at some time or before. -/
def PostedBy (postings : List Posting) (found : Versioned) (time : Nat) : Prop :=
  ∃ posting ∈ postings, posting.versioned = found ∧ posting.time ≤ time

/-- What is remembered of a record of somebody else is not older than the record. -/
def Observation.IsBacked
    (candidate : Candidate)
    (postings : List Posting)
    (observation : Observation) : Prop :=
  observation.record.isHeld → observation.record.holder ≠ candidate.identity →
    PostedBy postings ⟨observation.record, observation.version⟩ observation.since

/-- A candidate may put another record in the place of a posting. -/
def Posting.Yields (posting : Posting) (candidate : Candidate) (now : Nat) : Prop :=
  posting.record.holder = "" ∨ posting.record.holder = candidate.identity ∨
    posting.time + (Attempt.validity candidate posting.record).nanos ≤ now

namespace LockCall

/-- The record that a call is to write. -/
def record? : LockCall → Option Record
  | .get => none
  | .create record | .update record _ => some record

/-- A candidate is entitled to a call. A record that nobody holds only takes the place of one that
the candidate holds. -/
def Entitled (candidate : Candidate) (now : Nat) (postings : List Posting) : LockCall → Prop
  | .get => True
  | .create record => record.IsClaimOf candidate
  | .update record version =>
    ∃ posting ∈ postings, posting.version = version ∧ posting.Yields candidate now ∧
      (record.IsClaimOf candidate ∨
        record.holder = "" ∧ posting.record.holder = candidate.identity)

end LockCall

namespace Attempt

/-- The call whose answer an attempt waits for. -/
def Awaits : Attempt → LockCall → Prop
  | .reading _, call => call = .get
  | .creating desired, call => call = .create desired
  | .updating desired, call => ∃ version, call = .update desired version

/-- The record that an attempt wants to have written is the candidate's own. -/
def Claims (candidate : Candidate) : Attempt → Prop
  | .reading _ => True
  | .creating desired | .updating desired => desired.IsClaimOf candidate

end Attempt

namespace Phase

/-- The call whose answer a phase waits for. -/
def Awaits : Phase → LockCall → Prop
  | .acquiring attempt, call | .renewing attempt _, call => attempt.Awaits call
  | .releasing .reading, call => call = .get
  | .releasing (.writing released), call => ∃ version, call = .update released version
  | _, _ => False

/-- The record that a phase waits to have written is the candidate's own, or nobody's if the
candidate gives the lock up. -/
def Claims (candidate : Candidate) : Phase → Prop
  | .acquiring attempt | .renewing attempt _ => attempt.Claims candidate
  | .releasing (.writing released) => released.holder = ""
  | _ => True

end Phase

namespace Seat

/-- What a candidate believes and asks for agrees with what the lock held. -/
structure Lawful (candidate : Candidate) (now : Nat) (postings : List Posting) (seat : Seat) :
    Prop where
  observed : ∀ observation, seat.candidacy.observed = some observation →
    observation.IsBacked candidate postings
  claims : seat.candidacy.phase.Claims candidate
  awaits : ∀ pending, seat.pending = some pending → seat.candidacy.phase.Awaits pending.call
  entitled : ∀ pending, seat.pending = some pending →
    pending.call.Entitled candidate now postings
  /-- A record on its way to the candidate was posted. -/
  read : ∀ call found time,
    seat.pending = some ⟨call, some (.got (.ok (some found)), time)⟩ → PostedBy postings found now
  working : seat.isWorking → seat.candidacy.phase.isActive

end Seat

/-! ## The passing of time -/

section Later

variable {candidate : Candidate} {now moment : Nat} {postings extended : List Posting}

theorem PostedBy.later
    {found : Versioned}
    (posted : PostedBy postings found now)
    (passed : now ≤ moment)
    (kept : postings ⊆ extended) :
    PostedBy extended found moment := by
  obtain ⟨posting, present, same, early⟩ := posted
  exact ⟨posting, kept present, same, Nat.le_trans early passed⟩

theorem Observation.IsBacked.later
    {observation : Observation}
    (backed : observation.IsBacked candidate postings)
    (kept : postings ⊆ extended) :
    observation.IsBacked candidate extended :=
  fun held foreign => (backed held foreign).later (Nat.le_refl _) kept

theorem Posting.Yields.later
    {posting : Posting}
    (yields : posting.Yields candidate now)
    (passed : now ≤ moment) :
    posting.Yields candidate moment := by
  obtain free | own | expired := yields
  · exact .inl free
  · exact .inr (.inl own)
  · exact .inr (.inr (Nat.le_trans expired passed))

theorem LockCall.Entitled.later
    {call : LockCall}
    (entitled : call.Entitled candidate now postings)
    (passed : now ≤ moment)
    (kept : postings ⊆ extended) :
    call.Entitled candidate moment extended := by
  cases call with
  | get => trivial
  | create record => exact entitled
  | update record version =>
    obtain ⟨posting, present, same, yields, claim⟩ := entitled
    exact ⟨posting, kept present, same, yields.later passed, claim⟩

theorem Seat.Lawful.later
    {seat : Seat}
    (lawful : seat.Lawful candidate now postings)
    (passed : now ≤ moment)
    (kept : postings ⊆ extended) :
    seat.Lawful candidate moment extended where
  observed observation seen := (lawful.observed observation seen).later kept
  claims := lawful.claims
  awaits := lawful.awaits
  entitled pending present := (lawful.entitled pending present).later passed kept
  read call found time present := (lawful.read call found time present).later passed kept
  working := lawful.working

end Later

/-! ## Answers -/

namespace Attempt

variable {candidate : Candidate} {observed observed' : Option Observation} {attempt : Attempt}
  {now : Moment} {reply : LockReply} {postings : List Posting}

theorem claim_isClaimOf (candidate : Candidate) (began : Timestamp) :
    (claim candidate began).IsClaimOf candidate :=
  ⟨rfl, rfl⟩

theorem succeed_isClaimOf (candidate : Candidate) (began : Timestamp) (current : Record) :
    (succeed candidate began current).IsClaimOf candidate := by
  unfold succeed
  split <;> exact ⟨rfl, rfl⟩

@[simp] theorem observe_record (observed : Option Observation) (current : Versioned)
    (instant : Nat) :
    (observe observed current instant).record = current.record := by
  unfold observe
  split <;> grind

@[simp] theorem observe_version (observed : Option Observation) (current : Versioned)
    (instant : Nat) :
    (observe observed current instant).version = current.version := by
  unfold observe
  split <;> grind

/-- A record that was read and posted is remembered no older than it is. -/
theorem isBacked_observe
    {current : Versioned}
    (backed : ∀ observation, observed = some observation →
      observation.IsBacked candidate postings)
    (posted : PostedBy postings current now.instant) :
    (observe observed current now.instant).IsBacked candidate postings := by
  have anew : (Observation.mk current.record current.version now.instant).IsBacked
      candidate postings := fun _ _ => posted
  unfold observe
  split
  · next old =>
    split
    · exact backed old rfl
    · exact anew
  · exact anew

/-- What was read and is not somebody else's yields. -/
theorem yields_of_not_isTaken
    {observation : Observation}
    (backed : observation.IsBacked candidate postings)
    (posted : PostedBy postings ⟨observation.record, observation.version⟩ now.instant)
    (free : isTaken candidate observation now.instant = false) :
    ∃ posting ∈ postings, posting.version = observation.version ∧
      posting.Yields candidate now.instant := by
  by_cases unheld : observation.record.holder = ""
  · obtain ⟨posting, present, same, -⟩ := posted
    have record : posting.record = observation.record := congrArg Versioned.record same
    exact ⟨posting, present, congrArg Versioned.version same, .inl (by rw [record, unheld])⟩
  by_cases own : observation.record.holder = candidate.identity
  · obtain ⟨posting, present, same, -⟩ := posted
    have record : posting.record = observation.record := congrArg Versioned.record same
    exact ⟨posting, present, congrArg Versioned.version same,
      .inr (.inl (by rw [record, own]))⟩
  · obtain ⟨posting, present, same, early⟩ := backed (by simpa [Record.isHeld] using unheld) own
    have record : posting.record = observation.record := congrArg Versioned.record same
    have expired : observation.since + (validity candidate observation.record).nanos ≤
        now.instant := by
      simpa [isTaken, Record.isHeld, unheld, own, isExpired] using free
    refine ⟨posting, present, congrArg Versioned.version same, .inr (.inr ?_)⟩
    rw [record]
    omega

/-- An attempt asks to write only after it read the lock. -/
theorem eq_of_answer_ask
    {attempt' : Attempt}
    {call : LockCall}
    (answer : attempt.answer candidate observed now reply = (observed', .ask attempt' call)) :
    (∃ desired, attempt' = .creating desired ∧ call = .create desired ∧
      desired.IsClaimOf candidate ∧ observed' = observed) ∨
    ∃ desired current, attempt' = .updating desired ∧ call = .update desired current.version ∧
      desired.IsClaimOf candidate ∧ reply = .got (.ok (some current)) ∧
      observed' = some (observe observed current now.instant) ∧
      isTaken candidate (observe observed current now.instant) now.instant = false := by
  obtain began | desired | desired := attempt
  · obtain (_ | _ | current) | _ := reply
    · simp [Attempt.answer] at answer
    · simp only [Attempt.answer, Prod.mk.injEq, Next.ask.injEq] at answer
      obtain ⟨rfl, rfl, rfl⟩ := answer
      exact .inl ⟨_, rfl, rfl, claim_isClaimOf candidate began, rfl⟩
    · simp only [Attempt.answer] at answer
      split at answer
      · simp at answer
      next free =>
      split at answer
      · simp at answer
      · simp only [Prod.mk.injEq, Next.ask.injEq] at answer
        obtain ⟨rfl, rfl, rfl⟩ := answer
        exact .inr ⟨_, current, rfl, rfl, succeed_isClaimOf candidate began current.record, rfl,
          rfl, by simpa using free⟩
    · simp [Attempt.answer] at answer
  all_goals
    obtain _ | (_ | _) := reply <;> simp [Attempt.answer] at answer

/-- An attempt succeeds only when the record it wanted was written. -/
theorem eq_of_answer_ended_true
    (answer : attempt.answer candidate observed now reply = (observed', .ended true)) :
    ∃ desired, (attempt = .creating desired ∨ attempt = .updating desired) ∧
      reply = .written (.ok ()) ∧ observed' = some ⟨desired, "", now.instant⟩ := by
  obtain began | desired | desired := attempt
  · obtain (_ | _ | current) | _ := reply <;> simp [Attempt.answer] at answer
    split_ifs at answer <;> simp at answer
  all_goals
    obtain _ | (_ | _) := reply <;> simp [Attempt.answer] at answer
    exact ⟨desired, by simp, rfl, answer.symm⟩

/-- An attempt that failed saw the lock taken, or saw nothing. -/
theorem eq_of_answer_ended_false
    (answer : attempt.answer candidate observed now reply = (observed', .ended false)) :
    observed' = observed ∨ ∃ current, reply = .got (.ok (some current)) ∧
      observed' = some (observe observed current now.instant) := by
  obtain began | desired | desired := attempt
  · obtain (_ | _ | current) | _ := reply <;> simp only [Attempt.answer] at answer
    · exact .inl (by simpa using answer.symm)
    · simp at answer
    · split_ifs at answer
      · exact .inr ⟨current, rfl, by simpa using answer.symm⟩
      · simp at answer
      · simp at answer
    · exact .inl (by simpa using answer.symm)
  all_goals
    obtain _ | (_ | _) := reply <;> simp [Attempt.answer] at answer <;> exact .inl answer.symm

/-- An attempt breaks down exactly over a record that it read, that is not somebody else's any more
and not the candidate's own, and that counts as many changes of hands as there are numbers for. -/
theorem answer_eq_overflow_iff :
    (attempt.answer candidate observed now reply).2 = .overflow ↔
      ∃ began current, attempt = .reading began ∧ reply = .got (.ok (some current)) ∧
        isTaken candidate (observe observed current now.instant) now.instant = false ∧
        overflows candidate current.record = true := by
  obtain began | desired | desired := attempt
  · obtain (_ | _ | current) | _ := reply
    · simp [Attempt.answer]
    · simp [Attempt.answer]
    · simp only [Attempt.answer]
      split_ifs with taken full <;> simp_all
    · simp [Attempt.answer]
  all_goals
    obtain _ | (_ | _) := reply <;> simp [Attempt.answer]

/-- What an attempt that broke down observed. -/
theorem eq_of_answer_overflow
    (answer : attempt.answer candidate observed now reply = (observed', .overflow)) :
    ∃ current, reply = .got (.ok (some current)) ∧
      observed' = some (observe observed current now.instant) ∧
      isTaken candidate (observe observed current now.instant) now.instant = false ∧
      overflows candidate current.record = true := by
  obtain ⟨began, current, rfl, rfl, free, full⟩ :=
    answer_eq_overflow_iff.mp (congrArg Prod.snd answer)
  refine ⟨current, rfl, ?_, free, full⟩
  simpa [Attempt.answer, free, full] using (congrArg Prod.fst answer).symm

/-- An observation of the candidate's own record, or of nobody's, needs nothing to back it. -/
theorem isBacked_of_isClaimOf
    {record : Record}
    (claim : record.IsClaimOf candidate)
    (version : String)
    (since : Nat) :
    (Observation.mk record version since).IsBacked candidate postings :=
  fun _ foreign => absurd claim.holder foreign

/-- What a candidate remembers after an answer is backed. -/
theorem isBacked_of_answer
    {next : Next}
    (backed : ∀ observation, observed = some observation →
      observation.IsBacked candidate postings)
    (claims : attempt.Claims candidate)
    (read : ∀ current, reply = .got (.ok (some current)) →
      PostedBy postings current now.instant)
    (answer : attempt.answer candidate observed now reply = (observed', next)) :
    ∀ observation, observed' = some observation → observation.IsBacked candidate postings := by
  rintro observation rfl
  cases next with
  | ask attempt' call =>
    obtain ⟨_, _, _, _, same⟩ | ⟨_, current, _, _, _, found, same, _⟩ := eq_of_answer_ask answer
    · exact backed observation same.symm
    · obtain rfl := Option.some.inj same
      exact isBacked_observe backed (read current found)
  | ended success =>
    cases success with
    | false =>
      obtain same | ⟨current, found, same⟩ := eq_of_answer_ended_false answer
      · exact backed observation same.symm
      · obtain rfl := Option.some.inj same
        exact isBacked_observe backed (read current found)
    | true =>
      obtain ⟨desired, rfl | rfl, -, same⟩ := eq_of_answer_ended_true answer
      all_goals
        obtain rfl := Option.some.inj same
        exact isBacked_of_isClaimOf claims _ _
  | overflow =>
    obtain ⟨current, found, same, -, -⟩ := eq_of_answer_overflow answer
    obtain rfl := Option.some.inj same
    exact isBacked_observe backed (read current found)

/-- An attempt waits for a record of the candidate to be written. -/
theorem isClaimOf_of_awaits
    {call : LockCall}
    {record : Record}
    (claims : attempt.Claims candidate)
    (awaits : attempt.Awaits call)
    (writes : call.record? = some record) :
    record.IsClaimOf candidate := by
  cases attempt with
  | reading began =>
    obtain rfl : call = .get := awaits
    cases writes
  | creating desired =>
    obtain rfl : call = .create desired := awaits
    obtain rfl := Option.some.inj writes
    exact claims
  | updating desired =>
    obtain ⟨version, rfl⟩ := awaits
    obtain rfl := Option.some.inj writes
    exact claims

/-- The call that an attempt goes on with is one that the candidate is entitled to. -/
theorem entitled_of_answer_ask
    {attempt' : Attempt}
    {call : LockCall}
    (backed : ∀ observation, observed = some observation →
      observation.IsBacked candidate postings)
    (read : ∀ current, reply = .got (.ok (some current)) →
      PostedBy postings current now.instant)
    (answer : attempt.answer candidate observed now reply = (observed', .ask attempt' call)) :
    attempt'.Claims candidate ∧ attempt'.Awaits call ∧
      call.Entitled candidate now.instant postings := by
  obtain ⟨desired, rfl, rfl, claim, -⟩ | ⟨desired, current, rfl, rfl, claim, found, -, free⟩ :=
    eq_of_answer_ask answer
  · exact ⟨claim, rfl, claim⟩
  · have posted := read current found
    obtain ⟨posting, present, same, yields⟩ := yields_of_not_isTaken
      (isBacked_observe backed posted) (by simpa using posted) free
    exact ⟨claim, ⟨current.version, rfl⟩, posting, present, by simpa using same, yields,
      .inl claim⟩

end Attempt

/-! ## Seats -/

namespace Seat

variable {candidate : Candidate} {now : Nat} {postings : List Posting}

/-- A seat stays lawful when nothing is pending any more. -/
theorem Lawful.unpending
    {seat : Seat}
    (lawful : seat.Lawful candidate now postings) :
    Lawful candidate now postings { seat with pending := none } where
  observed := lawful.observed
  claims := lawful.claims
  awaits _ present := nomatch present
  entitled _ present := nomatch present
  read _ _ _ present := nomatch present
  working := lawful.working

/-- A seat stays lawful when its work ended. -/
theorem Lawful.unworking
    {seat : Seat}
    (lawful : seat.Lawful candidate now postings) :
    Lawful candidate now postings { seat with isWorking := false } where
  observed := lawful.observed
  claims := lawful.claims
  awaits := lawful.awaits
  entitled := lawful.entitled
  read := lawful.read
  working _ := by contradiction

/-- A seat without a pending call is lawful if the rest is. -/
theorem lawful_of_quiet
    {phase : Phase}
    {leadership : Leadership}
    {observed : Option Observation}
    {shutDown isWorking : Bool}
    (backed : ∀ observation, observed = some observation →
      observation.IsBacked candidate postings)
    (claims : phase.Claims candidate)
    (working : isWorking → phase.isActive) :
    Lawful candidate now postings
      ⟨⟨phase, leadership, observed, shutDown⟩, none, isWorking⟩ where
  observed := backed
  claims := claims
  awaits _ present := nomatch present
  entitled _ present := nomatch present
  read _ _ _ present := nomatch present
  working := working

/-- A seat that just asked is lawful if it is entitled to ask and the rest is. -/
theorem lawful_of_asking
    {phase : Phase}
    {call : LockCall}
    {leadership : Leadership}
    {observed : Option Observation}
    {shutDown isWorking : Bool}
    (backed : ∀ observation, observed = some observation →
      observation.IsBacked candidate postings)
    (claims : phase.Claims candidate)
    (awaits : phase.Awaits call)
    (entitled : call.Entitled candidate now postings)
    (working : isWorking → phase.isActive) :
    Lawful candidate now postings
      ⟨⟨phase, leadership, observed, shutDown⟩, some ⟨call, none⟩, isWorking⟩ where
  observed := backed
  claims := claims
  awaits pending present := by
    obtain rfl : ⟨call, none⟩ = pending := by simpa using present
    exact awaits
  entitled pending present := by
    obtain rfl : ⟨call, none⟩ = pending := by simpa using present
    exact entitled
  read _ _ _ present := by simp at present
  working := working

/-- A candidate that waits for nothing has no pending call. -/
theorem Lawful.pending_eq_none
    {seat : Seat}
    (lawful : seat.Lawful candidate now postings)
    (waits : seat.candidacy.phase.isAsking = false) :
    seat.pending = none := by
  cases present : seat.pending with
  | none => rfl
  | some pending =>
    have awaits := lawful.awaits pending present
    generalize seat.candidacy.phase = phase at waits awaits
    cases phase <;> simp_all [Phase.isAsking, Phase.Awaits]

/-- A pending call is to write the candidate's own record, or to give up the lock. -/
theorem Lawful.isClaimOf_of_pending
    {seat : Seat}
    {call : LockCall}
    {answer : Option (LockReply × Nat)}
    {record : Record}
    (lawful : seat.Lawful candidate now postings)
    (pending : seat.pending = some ⟨call, answer⟩)
    (writes : call.record? = some record) :
    record.IsClaimOf candidate ∨
      ∃ released, seat.candidacy.phase = .releasing (.writing released) := by
  have claims := lawful.claims
  have awaits : seat.candidacy.phase.Awaits call := lawful.awaits _ pending
  generalize seat.candidacy.phase = phase at claims awaits
  cases phase with
  | acquiring attempt | renewing attempt deadline =>
    exact .inl (Attempt.isClaimOf_of_awaits claims awaits writes)
  | releasing release =>
    cases release with
    | reading =>
      obtain rfl : call = .get := awaits
      cases writes
    | writing released => exact .inr ⟨released, rfl⟩
  | idle | pausing | resting | retrying | stopping | done => exact awaits.elim

/-- A candidate that does not work by its phase does not work. -/
theorem Lawful.not_isWorking
    {seat : Seat}
    (lawful : seat.Lawful candidate now postings)
    (passive : seat.candidacy.phase.isActive = false) :
    seat.isWorking = false := by
  by_contra works
  simp [lawful.working (by simpa using works)] at passive

/-- Every turn of a lawful seat leads to a lawful one. -/
theorem Turn.lawful
    {moment : Moment}
    {event : ElectionEvent}
    {seat next : Seat}
    (turn : Turn candidate moment event seat next)
    (lawful : seat.Lawful candidate moment.instant postings)
    (read : ∀ reply, event = .reply reply → ∀ current, reply = .got (.ok (some current)) →
      PostedBy postings current moment.instant)
    (answered : ∀ reply, event = .reply reply → seat.pending = none)
    (ended : event = .workEnded → seat.isWorking = false) :
    next.Lawful candidate moment.instant postings := by
  have backed := lawful.observed
  cases turn with
  | stays =>
    exact ⟨backed, lawful.claims, lawful.awaits, lawful.entitled, lawful.read, lawful.working⟩
  | seeks _ waits passive less =>
    have idle := lawful.not_isWorking passive
    exact lawful_of_asking backed trivial rfl trivial (by simp_all)
  | leaves waits passive less =>
    have idle := lawful.not_isWorking passive
    obtain rfl := lawful.pending_eq_none waits
    exact lawful_of_quiet backed trivial (by simp_all)
  | asks answer =>
    have idle := lawful.not_isWorking rfl
    obtain ⟨claims, awaits, entitled⟩ := Attempt.entitled_of_answer_ask backed
      (read _ rfl) answer
    have remembered := Attempt.isBacked_of_answer backed lawful.claims (read _ rfl) answer
    exact lawful_of_asking remembered claims awaits entitled (by simp_all)
  | keepsAsking answer =>
    obtain ⟨claims, awaits, entitled⟩ := Attempt.entitled_of_answer_ask backed
      (read _ rfl) answer
    have remembered := Attempt.isBacked_of_answer backed lawful.claims (read _ rfl) answer
    exact lawful_of_asking remembered claims awaits entitled fun _ => rfl
  | leads answer | rests answer | misses answer _ =>
    obtain rfl := answered _ rfl
    have remembered := Attempt.isBacked_of_answer backed lawful.claims (read _ rfl) answer
    exact lawful_of_quiet remembered trivial fun _ => rfl
  | leadsInVain answer | loses answer | breaksDown answer =>
    obtain rfl := answered _ rfl
    have remembered := Attempt.isBacked_of_answer backed lawful.claims (read _ rfl) answer
    exact lawful_of_quiet remembered trivial nofun
  | pauses answer | giveUp answer | collapses answer =>
    have idle := lawful.not_isWorking rfl
    obtain rfl := answered _ rfl
    have remembered := Attempt.isBacked_of_answer backed lawful.claims (read _ rfl) answer
    exact lawful_of_quiet remembered trivial (by simp_all)
  | renews due | retries due =>
    exact lawful_of_asking backed trivial rfl trivial fun _ => rfl
  | stops waits _ =>
    obtain rfl := lawful.pending_eq_none waits
    exact lawful_of_quiet backed trivial nofun
  | breaksOff => exact lawful_of_quiet backed trivial nofun
  | releases _ passive less =>
    refine lawful_of_asking backed trivial rfl trivial ?_
    intro works
    obtain rfl | passive := passive
    · exact absurd (less works) (by simpa using ended rfl)
    · exact absurd (less works) (by simpa using lawful.not_isWorking passive)
  | @vacates current _ _ _ _ _ _ _ own =>
    have idle := lawful.not_isWorking rfl
    obtain ⟨posting, present, same, -⟩ := read _ rfl current rfl
    have record : posting.record = current.record := congrArg Versioned.record same
    have held : posting.record.holder = candidate.identity := by rw [record, own]
    refine lawful_of_asking backed rfl ⟨_, rfl⟩ ?_ (by simp_all)
    exact ⟨posting, present, congrArg Versioned.version same, .inr (.inl held), .inr ⟨rfl, held⟩⟩
  | retires =>
    have idle := lawful.not_isWorking rfl
    obtain rfl := answered _ rfl
    exact lawful_of_quiet backed trivial (by simp_all)
  | @retiresFree released =>
    have idle := lawful.not_isWorking rfl
    obtain rfl := answered _ rfl
    have free : released.holder = "" := lawful.claims
    refine lawful_of_quiet ?_ trivial (by simp_all)
    intro observation same held
    obtain rfl := Option.some.inj same
    simp [Record.isHeld, free] at held

end Seat

end VolumeAttacher
