import VolumeAttacher.Proofs.Election.Entitlement

/-!
# Intrusions

What a candidate does after it read somebody else's record in place of its own. The loss of the lock
is not a matter of that one reading: the candidate tries on until its renewal is due, and if it
finds the lock free again by then, it writes its record once more and works on as if nothing had
been. So the term ends before the candidate writes again exactly if no later attempt of the term
finds the lock free.
-/

namespace VolumeAttacher

namespace ElectionAction

/-- The candidate asks to write the lock. -/
def isWrite : ElectionAction → Bool
  | .ask (.create _) | .ask (.update _ _) => true
  | _ => false

/-- The candidate makes known that it does not hold the lock. -/
def isDeparture : ElectionAction → Bool
  | .publish leadership => leadership != .held
  | _ => false

end ElectionAction

/-- The work was told to stop, and it was made known that the lock is not held. -/
def IsOver (deeds : List ElectionAction) : Prop :=
  .cancelWork ∈ deeds ∧ ∃ deed ∈ deeds, deed.isDeparture = true

instance (deeds : List ElectionAction) : Decidable (IsOver deeds) :=
  inferInstanceAs (Decidable (_ ∧ _))

/-- After what was done already, the candidate does not write the lock before its term is over. -/
def EndsFirst (past : List ElectionAction) : List ElectionAction → Prop
  | [] => True
  | deed :: rest => (deed.isWrite = true → IsOver past) ∧ EndsFirst (past ++ [deed]) rest

namespace EndsFirst

instance decidable (past : List ElectionAction) : (deeds : List ElectionAction) →
    Decidable (EndsFirst past deeds)
  | [] => inferInstanceAs (Decidable True)
  | deed :: rest =>
    have := decidable (past ++ [deed]) rest
    inferInstanceAs (Decidable (_ ∧ _))

variable {past deeds : List ElectionAction}

theorem append_iff (past deeds later : List ElectionAction) :
    EndsFirst past (deeds ++ later) ↔ EndsFirst past deeds ∧ EndsFirst (past ++ deeds) later := by
  induction deeds generalizing past with
  | nil => simp [EndsFirst]
  | cons deed rest inductionHypothesis =>
    simp [EndsFirst, inductionHypothesis, and_assoc]

/-- Once the term is over, the candidate may write. -/
theorem of_isOver (isOver : IsOver past) : EndsFirst past deeds := by
  induction deeds generalizing past with
  | nil => trivial
  | cons deed rest inductionHypothesis =>
    refine ⟨fun _ => isOver, inductionHypothesis ?_⟩
    obtain ⟨cancelled, deed, present, departs⟩ := isOver
    exact ⟨List.mem_append_left _ cancelled, deed, List.mem_append_left _ present, departs⟩

/-- A candidate that does not write does nothing too early. -/
theorem of_readOnly (readOnly : ∀ deed ∈ deeds, deed.isWrite = false) :
    EndsFirst past deeds := by
  induction deeds generalizing past with
  | nil => trivial
  | cons deed rest inductionHypothesis =>
    obtain ⟨reads, readOnly⟩ := List.forall_mem_cons.mp readOnly
    exact ⟨fun writes => by simp [reads] at writes, inductionHypothesis readOnly⟩

end EndsFirst

namespace Candidacy

/-- A candidate after some events, and all that it did. -/
def run (candidate : Candidate) (candidacy : Candidacy) : List (Moment × ElectionEvent) → Step
  | [] => (candidacy, [])
  | (now, event) :: rest =>
    let next := candidacy.step candidate now event
    after next.2 (run candidate next.1 rest)

/-- The candidate reads the lock and finds that it may write it: to renew it, if there is no record
or none that is somebody else's and valid or full, or to give it up, if the record is its own. -/
def isOffered (candidate : Candidate) (now : Moment) (candidacy : Candidacy) :
    ElectionEvent → Bool
  | .reply (.got (.ok found)) =>
    match candidacy.phase, found with
    | .renewing (.reading _) _, none => true
    | .renewing (.reading _) _, some current =>
      !Attempt.isTaken candidate (Attempt.observe candidacy.observed current now.instant)
        now.instant && !Attempt.overflows candidate current.record
    | .releasing .reading, some current => current.record.holder = candidate.identity
    | _, _ => false
  | _ => false

/-- The candidate reads the lock and finds that it may write it, before it makes known that it does
not hold the lock any more. -/
def findsFree (candidate : Candidate) (candidacy : Candidacy) :
    List (Moment × ElectionEvent) → Bool
  | [] => false
  | (now, event) :: rest =>
    candidacy.leadership == .held &&
      (candidacy.isOffered candidate now event ||
        findsFree candidate (candidacy.step candidate now event).1 rest)

section Run

variable {candidate : Candidate} {candidacy : Candidacy} {now : Moment} {event : ElectionEvent}
  {past : List ElectionAction}

/-- A candidate that is done does nothing more. -/
theorem step_of_done
    (candidate : Candidate)
    (now : Moment)
    (event : ElectionEvent)
    (done : candidacy.phase = .done) :
    (candidacy.step candidate now event).1.phase = .done ∧
      (candidacy.step candidate now event).2 = [] := by
  obtain ⟨phase, leadership, observed, shutDown⟩ := candidacy
  obtain rfl : phase = .done := done
  cases event <;> exact ⟨rfl, rfl⟩

theorem run_of_done (done : candidacy.phase = .done) (events : List (Moment × ElectionEvent)) :
    (candidacy.run candidate events).2 = [] := by
  induction events generalizing candidacy with
  | nil => rfl
  | cons head rest inductionHypothesis =>
    obtain ⟨now, event⟩ := head
    obtain ⟨still, nothing⟩ := step_of_done candidate now event done
    simp [run, after, nothing, inductionHypothesis still]

/-- A candidate that is done reads nothing. -/
theorem findsFree_of_done (done : candidacy.phase = .done)
    (events : List (Moment × ElectionEvent)) :
    candidacy.findsFree candidate events = false := by
  induction events generalizing candidacy with
  | nil => rfl
  | cons head rest inductionHypothesis =>
    obtain ⟨now, event⟩ := head
    have declined : candidacy.isOffered candidate now event = false := by
      unfold isOffered
      split <;> simp [done]
    simp [findsFree, declined, inductionHypothesis (step_of_done candidate now event done).1]

/-- A candidate that does not hold the lock by its own account finds nothing of its own. -/
theorem findsFree_of_ne_held (left : candidacy.leadership ≠ .held)
    (events : List (Moment × ElectionEvent)) :
    candidacy.findsFree candidate events = false := by
  cases events with
  | nil => rfl
  | cons head rest => simp [findsFree, left]

end Run

end Candidacy

/-- The phases of a term in which no attempt since a renewal began found the lock free. -/
def Phase.Lingers (past : List ElectionAction) : Phase → Prop
  | .renewing (.reading _) _ | .retrying _ _ | .releasing .reading => True
  | .stopping _ _ => .cancelWork ∈ past
  | _ => False

namespace Candidacy

/-- The candidate holds the lock by its own account, and did not find it free since a renewal
began. -/
structure Lingers (past : List ElectionAction) (candidacy : Candidacy) : Prop where
  held : candidacy.leadership = .held
  phase : candidacy.phase.Lingers past
  silent : ∀ deed ∈ past, deed.isDeparture = false

/-- How such a term goes on. -/
inductive Sequel (candidate : Candidate) (now : Moment) (event : ElectionEvent)
    (past : List ElectionAction) (candidacy : Candidacy) : Prop
  | writes (call : LockCall)
      (offered : candidacy.isOffered candidate now event = true)
      (deeds : (candidacy.step candidate now event).2 = [.ask call])
      (writes : (ElectionAction.ask call).isWrite = true)
  | lingers
      (declined : candidacy.isOffered candidate now event = false)
      (readOnly : ∀ deed ∈ (candidacy.step candidate now event).2, deed.isWrite = false)
      (lingers : (candidacy.step candidate now event).1.Lingers
        (past ++ (candidacy.step candidate now event).2))
  | ends
      (declined : candidacy.isOffered candidate now event = false)
      (readOnly : ∀ deed ∈ (candidacy.step candidate now event).2, deed.isWrite = false)
      (closes : (candidacy.step candidate now event).1.leadership ≠ .held ∧
          IsOver (past ++ (candidacy.step candidate now event).2) ∨
        (candidacy.step candidate now event).1.phase = .done)

section Sequel

variable {candidate : Candidate} {candidacy : Candidacy} {now : Moment} {event : ElectionEvent}
  {past : List ElectionAction}

/-- A term goes on where the candidate does no more than read and tell its work to stop. -/
theorem Sequel.of_quiet
    (next : Candidacy)
    (deeds : List ElectionAction)
    (lingers : candidacy.Lingers past)
    (step : candidacy.step candidate now event = (next, deeds))
    (declined : candidacy.isOffered candidate now event = false)
    (still : next.leadership = candidacy.leadership)
    (phase : next.phase.Lingers (past ++ deeds))
    (quiet : ∀ deed ∈ deeds, deed.isWrite = false ∧ deed.isDeparture = false) :
    Sequel candidate now event past candidacy := by
  refine .lingers declined ?_ ?_
  · rw [step]
    exact fun deed present => (quiet deed present).1
  · rw [step]
    refine ⟨still.trans lingers.held, phase, ?_⟩
    exact List.forall_mem_append.mpr ⟨lingers.silent, fun deed present => (quiet deed present).2⟩

theorem Sequel.of_unchanged
    (lingers : candidacy.Lingers past)
    (step : candidacy.step candidate now event = (candidacy, []))
    (declined : candidacy.isOffered candidate now event = false) :
    Sequel candidate now event past candidacy :=
  .of_quiet candidacy [] lingers step declined rfl (by simpa using lingers.phase) (by simp)

/-- A term goes on where a renewal failed: the candidate waits for another attempt, or tells its work
to stop. -/
theorem Sequel.of_miss
    {deadline : Nat}
    {next : Candidacy}
    (deeds : List ElectionAction)
    (lingers : candidacy.Lingers past)
    (step : candidacy.step candidate now event = after deeds (next.miss candidate deadline now))
    (declined : candidacy.isOffered candidate now event = false)
    (still : next.leadership = candidacy.leadership)
    (quiet : ∀ deed ∈ deeds, deed.isWrite = false ∧ deed.isDeparture = false) :
    Sequel candidate now event past candidacy := by
  by_cases late : deadline ≤ now.instant + candidate.timing.retry.nanos
  · simp only [miss, if_pos late] at step
    refine .of_quiet _ _ lingers step declined still
      (by simp [Phase.Lingers, stop, after, enter]) ?_
    exact List.forall_mem_append.mpr ⟨quiet, by
      simp [stop, after, enter, ElectionAction.isWrite, ElectionAction.isDeparture]⟩
  · simp only [miss, if_neg late] at step
    exact .of_quiet _ _ lingers step declined still trivial
      (List.forall_mem_append.mpr ⟨quiet, by simp [enter]⟩)

/-- A term ends where the work that was told to stop stopped and the lock is lost. -/
theorem Sequel.of_stopped
    {ending : Ending}
    {deadline : Nat}
    (deeds : List ElectionAction)
    (lingers : candidacy.Lingers past)
    (phase : candidacy.phase = .stopping ending deadline)
    (step : candidacy.step candidate now event = after deeds (candidacy.stopped ending now))
    (declined : candidacy.isOffered candidate now event = false)
    (quiet : ∀ deed ∈ deeds, deed.isWrite = false ∧ deed.isDeparture = false) :
    Sequel candidate now event past candidacy := by
  have cancelled : .cancelWork ∈ past := by simpa [phase, Phase.Lingers] using lingers.phase
  cases ending with
  | lost =>
    have readOnly : ∀ deed ∈ (candidacy.stopped .lost now).2, deed.isWrite = false := by
      cases shutDown : candidacy.shutDown <;>
        simp [stopped, publish, acquire, withdraw, finish, tryAcquire, after, enter, shutDown,
          ElectionAction.isWrite]
    have left : (candidacy.stopped .lost now).1.leadership ≠ .held := by
      cases shutDown : candidacy.shutDown <;>
        simp [stopped, publish, acquire, withdraw, finish, tryAcquire, after, enter, shutDown]
    refine .ends declined ?_ (.inl ⟨?_, List.mem_append_left _ cancelled, .publish .released, ?_,
      rfl⟩)
    · rw [step]
      exact List.forall_mem_append.mpr ⟨fun deed present => (quiet deed present).1, readOnly⟩
    · rw [step]
      exact left
    · rw [step]
      simp [stopped, publish, after]
  | shutDown =>
    refine .of_quiet _ _ lingers step declined rfl trivial ?_
    exact List.forall_mem_append.mpr ⟨quiet, by
      simp [stopped, release, after, enter, ElectionAction.isWrite, ElectionAction.isDeparture]⟩

/-- An attempt to renew the lock. -/
theorem Lingers.sequel_of_renewing
    {began : Timestamp}
    {deadline : Nat}
    (lingers : candidacy.Lingers past)
    (phase : candidacy.phase = .renewing (.reading began) deadline) :
    Sequel candidate now event past candidacy := by
  obtain ⟨_, leadership, observed, shutDown⟩ := candidacy
  obtain rfl := phase
  cases event with
  | start => exact .of_unchanged lingers rfl rfl
  | reply reply =>
    obtain (_ | _ | current) | _ := reply
    · exact .of_miss [] lingers rfl rfl rfl (by simp)
    · exact .writes _ rfl rfl rfl
    · by_cases taken : Attempt.isTaken candidate
        (Attempt.observe observed current now.instant) now.instant = true
      · have missed : step candidate now ⟨.renewing (.reading began) deadline, leadership, observed,
            shutDown⟩ (.reply (.got (.ok (some current)))) =
          after [] (miss candidate deadline now ⟨.renewing (.reading began) deadline, leadership,
            some (Attempt.observe observed current now.instant), shutDown⟩) := by
          simp [step, onReply, Attempt.answer, taken, after]
        exact .of_miss [] lingers missed (by simp [isOffered, taken]) rfl (by simp)
      by_cases full : Attempt.overflows candidate current.record = true
      · refine .ends (by simp [isOffered, full]) ?_ (.inr ?_) <;>
          simp [step, onReply, Attempt.answer, taken, full, breakDown, after, enter,
            ElectionAction.isWrite]
      · refine .writes (.update (Attempt.succeed candidate began current.record)
          current.version) ?_ ?_ rfl
        · simp [isOffered, taken, full]
        · simp [step, onReply, Attempt.answer, taken, full, after, enter]
    · exact .of_miss [] lingers rfl rfl rfl (by simp)
  | tick =>
    by_cases due : Duration.ring deadline ≤ now.instant
    · exact .of_miss [.abandonCall] lingers (by simp [step, timer?, due, onTimer]; rfl) rfl rfl
        (by simp [ElectionAction.isWrite, ElectionAction.isDeparture])
    · exact .of_unchanged lingers (by simp [step, timer?, due]) rfl
  | shutDown =>
    exact .of_quiet _ [.abandonCall, .cancelWork] lingers rfl rfl rfl
      (by simp [Phase.Lingers, stop, after, enter])
      (by simp [ElectionAction.isWrite, ElectionAction.isDeparture])
  | workEnded =>
    exact .of_quiet _ [.abandonCall, .ask .get] lingers rfl rfl rfl trivial
      (by simp [ElectionAction.isWrite, ElectionAction.isDeparture])

/-- A candidate that waits for another attempt to renew. -/
theorem Lingers.sequel_of_retrying
    {wake deadline : Nat}
    (lingers : candidacy.Lingers past)
    (phase : candidacy.phase = .retrying wake deadline) :
    Sequel candidate now event past candidacy := by
  obtain ⟨_, leadership, observed, shutDown⟩ := candidacy
  obtain rfl := phase
  cases event with
  | start => exact .of_unchanged lingers rfl rfl
  | reply reply =>
    refine .of_unchanged lingers ?_ ?_
    · rfl
    · obtain (_ | _) | _ := reply <;> rfl
  | tick =>
    by_cases due : Duration.ring wake ≤ now.instant
    · exact .of_quiet ⟨.renewing (.begin now) deadline, leadership, observed, shutDown⟩ [.ask .get]
        lingers (by simp [step, timer?, due, onTimer, tryRenew, after, enter]) rfl rfl trivial
        (by simp [ElectionAction.isWrite, ElectionAction.isDeparture])
    · exact .of_unchanged lingers (by simp [step, timer?, due]) rfl
  | shutDown =>
    exact .of_quiet _ [.cancelWork] lingers rfl rfl rfl (by simp [Phase.Lingers, enter])
      (by simp [ElectionAction.isWrite, ElectionAction.isDeparture])
  | workEnded =>
    exact .of_quiet _ [.ask .get] lingers rfl rfl rfl trivial
      (by simp [ElectionAction.isWrite, ElectionAction.isDeparture])

/-- A candidate that waits for its work to stop. -/
theorem Lingers.sequel_of_stopping
    {ending : Ending}
    {deadline : Nat}
    (lingers : candidacy.Lingers past)
    (phase : candidacy.phase = .stopping ending deadline) :
    Sequel candidate now event past candidacy := by
  obtain ⟨_, leadership, observed, shutDown⟩ := candidacy
  obtain rfl := phase
  cases event with
  | start => exact .of_unchanged lingers rfl rfl
  | reply reply =>
    refine .of_unchanged lingers ?_ ?_
    · rfl
    · obtain (_ | _) | _ := reply <;> rfl
  | tick =>
    by_cases due : Duration.ring deadline ≤ now.instant
    · exact .of_stopped [.dropWork] lingers rfl (by simp [step, timer?, due, onTimer]) rfl
        (by simp [ElectionAction.isWrite, ElectionAction.isDeparture])
    · exact .of_unchanged lingers (by simp [step, timer?, due]) rfl
  | shutDown =>
    exact .of_quiet _ [] lingers rfl rfl rfl (by simpa using lingers.phase) (by simp)
  | workEnded => exact .of_stopped [] lingers rfl rfl rfl (by simp)

/-- A candidate that reads the lock to give it up. -/
theorem Lingers.sequel_of_releasing
    (lingers : candidacy.Lingers past)
    (phase : candidacy.phase = .releasing .reading) :
    Sequel candidate now event past candidacy := by
  obtain ⟨_, leadership, observed, shutDown⟩ := candidacy
  obtain rfl := phase
  have retires
      (step : Candidacy.step candidate now ⟨.releasing .reading, leadership, observed, shutDown⟩
        event = retire ⟨.releasing .reading, leadership, observed, shutDown⟩)
      (declined : isOffered candidate now ⟨.releasing .reading, leadership, observed, shutDown⟩
        event = false) :
      Sequel candidate now event past ⟨.releasing .reading, leadership, observed, shutDown⟩ := by
    refine .ends declined ?_ (.inr ?_) <;> rw [step] <;>
      simp [retire, publish, finish, after, enter, ElectionAction.isWrite]
  cases event with
  | start => exact .of_unchanged lingers rfl rfl
  | reply reply =>
    obtain (_ | _ | current) | _ := reply
    · exact retires rfl rfl
    · exact retires rfl rfl
    · by_cases own : current.record.holder = candidate.identity
      · refine .writes (.update (Release.vacate current.record now.clock) current.version) ?_ ?_
          rfl
        · simp [isOffered, own]
        · simp [step, onReply, own, after, enter]
      · exact retires (by simp [step, onReply, own]) (by simp [isOffered, own])
    · exact retires rfl rfl
  | tick => exact .of_unchanged lingers rfl rfl
  | shutDown =>
    exact .of_quiet _ [] lingers rfl rfl rfl trivial (by simp)
  | workEnded => exact .of_unchanged lingers rfl rfl

/-- Whatever happens, a term goes on in one of three ways. -/
theorem Lingers.sequel
    (lingers : candidacy.Lingers past)
    (candidate : Candidate)
    (now : Moment)
    (event : ElectionEvent) :
    Sequel candidate now event past candidacy := by
  have lingering := lingers.phase
  cases phase : candidacy.phase with
  | renewing attempt deadline =>
    cases attempt with
    | reading began => exact lingers.sequel_of_renewing phase
    | creating | updating => simp [phase, Phase.Lingers] at lingering
  | retrying wake deadline => exact lingers.sequel_of_retrying phase
  | stopping ending deadline => exact lingers.sequel_of_stopping phase
  | releasing release =>
    cases release with
    | reading => exact lingers.sequel_of_releasing phase
    | writing => simp [phase, Phase.Lingers] at lingering
  | idle | acquiring | pausing | resting | done => simp [phase, Phase.Lingers] at lingering

/-- A term ends before the candidate writes again exactly if no attempt of the term finds the lock
free. -/
theorem Lingers.endsFirst_iff
    (lingers : candidacy.Lingers past)
    (events : List (Moment × ElectionEvent)) :
    EndsFirst past (candidacy.run candidate events).2 ↔
      candidacy.findsFree candidate events = false := by
  induction events generalizing past candidacy with
  | nil => simp [run, EndsFirst, findsFree]
  | cons head rest inductionHypothesis =>
    obtain ⟨now, event⟩ := head
    have split : (candidacy.run candidate ((now, event) :: rest)).2 =
        (candidacy.step candidate now event).2 ++
          ((candidacy.step candidate now event).1.run candidate rest).2 := rfl
    rw [split, EndsFirst.append_iff]
    cases lingers.sequel candidate now event with
    | writes call offered deeds writes =>
      have early : ¬ IsOver past := by
        rintro ⟨-, deed, present, departs⟩
        simp [lingers.silent deed present] at departs
      simp [findsFree, lingers.held, offered, deeds, EndsFirst, writes, early]
    | lingers declined readOnly next =>
      simp [findsFree, lingers.held, declined, inductionHypothesis next,
        EndsFirst.of_readOnly readOnly]
    | ends declined readOnly closes =>
      obtain ⟨left, isOver⟩ | done := closes
      · simp [findsFree, lingers.held, declined, findsFree_of_ne_held left,
          EndsFirst.of_isOver isOver, EndsFirst.of_readOnly readOnly]
      · simp [findsFree, lingers.held, declined, findsFree_of_done done, run_of_done done,
          EndsFirst, EndsFirst.of_readOnly readOnly]

end Sequel

/-! ## Terms -/

/-- A candidate that works holds the lock by its own account. -/
def IsCandid (candidacy : Candidacy) : Prop :=
  candidacy.phase.isActive = true → candidacy.leadership = .held

namespace IsCandid

variable {candidacy : Candidacy}

theorem of_passive (passive : candidacy.phase.isActive = false) : candidacy.IsCandid :=
  fun active => by simp [passive] at active

theorem miss
    (held : candidacy.leadership = .held)
    (candidate : Candidate)
    (deadline : Nat)
    (now : Moment) :
    (candidacy.miss candidate deadline now).1.IsCandid := by
  unfold Candidacy.miss
  dsimp only
  split
  · exact of_passive rfl
  · exact fun _ => held

theorem stopped (ending : Ending) (now : Moment) : (candidacy.stopped ending now).1.IsCandid := by
  obtain ⟨phase, leadership, observed, shutDown⟩ := candidacy
  cases ending <;> cases shutDown <;> exact of_passive rfl

theorem onReply
    (candid : candidacy.IsCandid)
    (candidate : Candidate)
    (now : Moment)
    (reply : LockReply) :
    (candidacy.onReply candidate now reply).1.IsCandid := by
  obtain ⟨phase, leadership, observed, shutDown⟩ := candidacy
  cases phase with
  | acquiring attempt =>
    simp only [Candidacy.onReply]
    rcases attempt.answer candidate observed now reply with ⟨observed', _ | (_ | _) | _⟩
    · exact of_passive rfl
    · cases shutDown <;> exact of_passive rfl
    · cases shutDown <;> exact fun _ => rfl
    · exact of_passive rfl
  | renewing attempt deadline =>
    simp only [Candidacy.onReply]
    rcases attempt.answer candidate observed now reply with ⟨observed', _ | (_ | _) | _⟩
    · exact fun _ => candid rfl
    · refine miss ?_ candidate deadline now
      exact candid rfl
    · exact fun _ => candid rfl
    · exact of_passive rfl
  | releasing release =>
    refine of_passive ?_
    cases release with
    | reading =>
      obtain (_ | _ | current) | _ := reply
      · rfl
      · rfl
      · simp only [Candidacy.onReply]
        split <;> rfl
      · rfl
    | writing released => obtain (_ | _) | (_ | _) := reply <;> rfl
  | idle | pausing | resting | retrying | stopping | done => exact candid

theorem onTimer
    (candid : candidacy.IsCandid)
    (candidate : Candidate)
    (now : Moment) :
    (candidacy.onTimer candidate now).1.IsCandid := by
  obtain ⟨phase, leadership, observed, shutDown⟩ := candidacy
  cases phase with
  | resting | retrying => exact fun _ => candid rfl
  | renewing attempt deadline => exact miss (candid rfl) candidate deadline now
  | stopping ending deadline => exact stopped ending now
  | pausing => exact of_passive rfl
  | idle | acquiring | releasing | done => exact candid

/-- A candidate that works still holds the lock by its own account, whatever happened. -/
theorem step
    (candid : candidacy.IsCandid)
    (candidate : Candidate)
    (now : Moment)
    (event : ElectionEvent) :
    (candidacy.step candidate now event).1.IsCandid := by
  cases event with
  | start =>
    obtain ⟨phase, leadership, observed, shutDown⟩ := candidacy
    cases phase with
    | idle => cases shutDown <;> exact of_passive rfl
    | acquiring | pausing | resting | renewing | retrying | stopping | releasing | done =>
      exact candid
  | reply reply => exact candid.onReply candidate now reply
  | tick =>
    simp only [Candidacy.step]
    split
    · split
      · exact candid.onTimer candidate now
      · exact candid
    · exact candid
  | shutDown =>
    obtain ⟨phase, leadership, observed, shutDown⟩ := candidacy
    cases phase <;> exact of_passive rfl
  | workEnded =>
    obtain ⟨phase, leadership, observed, shutDown⟩ := candidacy
    cases phase with
    | stopping ending deadline => exact stopped ending now
    | idle | acquiring | pausing | resting | renewing | retrying | releasing | done =>
      exact of_passive rfl

theorem run
    (candid : candidacy.IsCandid)
    (candidate : Candidate)
    (events : List (Moment × ElectionEvent)) :
    (candidacy.run candidate events).1.IsCandid := by
  induction events generalizing candidacy with
  | nil => exact candid
  | cons head rest inductionHypothesis =>
    exact inductionHypothesis (candid.step candidate head.1 head.2)

end IsCandid

/-- A term in which a renewal reads somebody else's record ends before the candidate writes again
exactly if the record is not expired by the candidate's own clock, or counts so many changes of
hands that the run breaks down over it, and no later attempt of the term finds the lock free. -/
theorem endsFirst_iff_of_foreign_record
    {candidate : Candidate}
    {candidacy : Candidacy}
    {began : Timestamp}
    {deadline : Nat}
    {current : Versioned}
    (opening : List (Moment × ElectionEvent))
    (opened : (idle.run candidate opening).1 = candidacy)
    (renews : candidacy.phase = .renewing (.reading began) deadline)
    (held : current.record.isHeld)
    (foreign : current.record.holder ≠ candidate.identity)
    (now : Moment)
    (rest : List (Moment × ElectionEvent)) :
    EndsFirst []
        (candidacy.run candidate ((now, .reply (.got (.ok (some current)))) :: rest)).2 ↔
      (Attempt.isExpired candidate
            (Attempt.observe candidacy.observed current now.instant) now.instant = false ∨
          Attempt.overflows candidate current.record = true) ∧
        (candidacy.step candidate now (.reply (.got (.ok (some current))))).1.findsFree candidate
          rest = false := by
  have candid : candidacy.IsCandid := by
    rw [← opened]
    exact IsCandid.run (.of_passive rfl) candidate opening
  have own : candidacy.leadership = .held := candid (by rw [renews]; rfl)
  have lingers : candidacy.Lingers [] := ⟨own, by simp [renews, Phase.Lingers], by simp⟩
  rw [lingers.endsFirst_iff]
  cases expired : Attempt.isExpired candidate
      (Attempt.observe candidacy.observed current now.instant) now.instant <;>
    simp [findsFree, own, isOffered, renews, Attempt.isTaken, held, foreign, expired]

/-- A candidate gets the lock, and begins to renew it after five seconds. -/
def firstRenewal (clock : Timestamp) : List (Moment × ElectionEvent) :=
  [(⟨0, clock⟩, .start), (⟨0, clock⟩, .reply (.got (.ok none))),
    (⟨0, clock⟩, .reply (.written (.ok ()))), (⟨(Duration.ofSeconds 5).nanos, clock⟩, .tick)]

/-- A record of somebody else that is valid for some seconds. -/
def intruder (leaseSeconds : Int32) : Versioned :=
  ⟨⟨"intruder", leaseSeconds, none, none, 1⟩, "2"⟩

/-- The second attempt of the renewal reads the same record as the first. -/
def secondAttempt (clock : Timestamp) (current : Versioned) : List (Moment × ElectionEvent) :=
  [(⟨(Duration.ofSeconds 10).nanos, clock⟩, .tick),
    (⟨(Duration.ofSeconds 10).nanos, clock⟩, .reply (.got (.ok (some current))))]

/-- With the standard settings, a record that is valid for 15 seconds ends the term before the
candidate, which finds no record after its work ended, writes again. -/
theorem endsFirst_of_long_intruder :
    let candidate : Candidate := ⟨"a", .standard⟩
    let candidacy := (idle.run candidate (firstRenewal default)).1
    candidacy.phase = .renewing (.reading default) (Duration.ofSeconds 15).nanos ∧
      EndsFirst [] (candidacy.run candidate
        ((⟨(Duration.ofSeconds 5).nanos, default⟩, .reply (.got (.ok (some (intruder 15))))) ::
          secondAttempt default (intruder 15) ++
            [(⟨(Duration.ofSeconds 10).nanos, default⟩, .workEnded),
              (⟨(Duration.ofSeconds 10).nanos, default⟩, .reply (.got (.ok none)))])).2 :=
  ⟨rfl, (endsFirst_iff_of_foreign_record (firstRenewal default) rfl rfl rfl (by decide) _ _).mpr
    (by decide)⟩

/-- With the standard settings, a record that is valid for one second does not end the term: the
candidate writes its record again while it works and is known to hold the lock. -/
theorem not_endsFirst_of_brief_intruder :
    let candidate : Candidate := ⟨"a", .standard⟩
    let candidacy := (idle.run candidate (firstRenewal default)).1
    candidate.timing.check = .ok () ∧
      candidacy.phase = .renewing (.reading default) (Duration.ofSeconds 15).nanos ∧
      candidacy.leadership = .held ∧
      (intruder 1).record.isHeld = true ∧ (intruder 1).record.holder ≠ candidate.identity ∧
      ¬ EndsFirst [] (candidacy.run candidate
        ((⟨(Duration.ofSeconds 5).nanos, default⟩, .reply (.got (.ok (some (intruder 1))))) ::
          secondAttempt default (intruder 1))).2 :=
  ⟨rfl, rfl, rfl, rfl, by decide, by decide⟩

end Candidacy

end VolumeAttacher
