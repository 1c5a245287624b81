import VolumeAttacher.Proofs.Duration.Ring
import VolumeAttacher.Proofs.Election.Contest

/-!
# What an event does to a seat

Every event takes a seat through one of a few turns. The turns say all about the phase, the
observation, the pending call and the work of a candidate, so that a property of contests is proved
by cases on them. They leave open what the candidate makes known of its standing.
-/

namespace VolumeAttacher

namespace Phase

/-- The candidate has a procedure that works. -/
def isActive : Phase → Bool
  | .resting _ | .renewing _ _ | .retrying _ _ => true
  | _ => false

/-- The candidate waits for an answer of the lock. -/
def isAsking : Phase → Bool
  | .acquiring _ | .renewing _ _ | .releasing _ => true
  | _ => false

end Phase

namespace Seat

/-- The ways from a seat to the next one. The seat is the one prepared for the event: an answer that
arrives is not pending any more, and work that ended does not go on. -/
inductive Turn (candidate : Candidate) (now : Moment) : ElectionEvent → Seat → Seat → Prop
  /-- The event does not matter in this phase. A reply matters wherever one is awaited. -/
  | stays {event phase l l' observed d d' pending work}
      (waits : ∀ reply, event = .reply reply → phase.isAsking = false) :
    Turn candidate now event
      ⟨⟨phase, l, observed, d⟩, pending, work⟩
      ⟨⟨phase, l', observed, d'⟩, pending, work⟩
  /-- An attempt to get the lock begins. -/
  | seeks {event phase l l' observed d d' pending work work'}
      (ongoing : phase ≠ .done)
      (waits : phase.isAsking = false)
      (passive : phase.isActive = false)
      (less : work' = true → work = true) :
    Turn candidate now event
      ⟨⟨phase, l, observed, d⟩, pending, work⟩
      ⟨⟨.acquiring (.begin now), l', observed, d'⟩, some ⟨.get, none⟩, work'⟩
  /-- The run ends before the lock was sought. -/
  | leaves {event phase l l' observed d d' pending work work'}
      (waits : phase.isAsking = false)
      (passive : phase.isActive = false)
      (less : work' = true → work = true) :
    Turn candidate now event
      ⟨⟨phase, l, observed, d⟩, pending, work⟩
      ⟨⟨.done, l', observed, d'⟩, pending, work'⟩
  /-- An attempt to get the lock goes on. -/
  | asks {attempt attempt' call reply l l' observed observed' d d' pending work}
      (answer : attempt.answer candidate observed now reply = (observed', .ask attempt' call)) :
    Turn candidate now (.reply reply)
      ⟨⟨.acquiring attempt, l, observed, d⟩, pending, work⟩
      ⟨⟨.acquiring attempt', l', observed', d'⟩, some ⟨call, none⟩, work⟩
  /-- The lock was got, and the work starts. -/
  | leads {attempt reply l l' observed observed' d d' pending work}
      (answer : attempt.answer candidate observed now reply = (observed', .ended true)) :
    Turn candidate now (.reply reply)
      ⟨⟨.acquiring attempt, l, observed, d⟩, pending, work⟩
      ⟨⟨.resting (now.instant + candidate.timing.retry.nanos), l', observed', d'⟩, pending, true⟩
  /-- The lock was got by a candidate that was told to stop. -/
  | leadsInVain {attempt reply l l' observed observed' d d' pending work}
      (answer : attempt.answer candidate observed now reply = (observed', .ended true)) :
    Turn candidate now (.reply reply)
      ⟨⟨.acquiring attempt, l, observed, d⟩, pending, work⟩
      ⟨⟨.stopping .shutDown (now.instant + candidate.timing.grace.nanos), l', observed', d'⟩,
        pending, false⟩
  /-- The lock was not got. -/
  | pauses {attempt reply l l' observed observed' d d' pending work}
      (answer : attempt.answer candidate observed now reply = (observed', .ended false)) :
    Turn candidate now (.reply reply)
      ⟨⟨.acquiring attempt, l, observed, d⟩, pending, work⟩
      ⟨⟨.pausing (now.instant + candidate.timing.retry.nanos), l', observed', d'⟩, pending, work⟩
  /-- The lock was not got by a candidate that was told to stop. -/
  | giveUp {attempt reply l l' observed observed' d d' pending work}
      (answer : attempt.answer candidate observed now reply = (observed', .ended false)) :
    Turn candidate now (.reply reply)
      ⟨⟨.acquiring attempt, l, observed, d⟩, pending, work⟩
      ⟨⟨.done, l', observed', d'⟩, pending, work⟩
  /-- The run breaks down over the record that was read. -/
  | collapses {attempt reply l l' observed observed' d d' pending work}
      (answer : attempt.answer candidate observed now reply = (observed', .overflow)) :
    Turn candidate now (.reply reply)
      ⟨⟨.acquiring attempt, l, observed, d⟩, pending, work⟩
      ⟨⟨.done, l', observed', d'⟩, pending, work⟩
  /-- A renewal begins. -/
  | renews {wake l l' observed d d' pending work}
      (due : Duration.ring wake ≤ now.instant) :
    Turn candidate now .tick
      ⟨⟨.resting wake, l, observed, d⟩, pending, work⟩
      ⟨⟨.renewing (.begin now) (now.instant + candidate.timing.renew.nanos), l', observed, d'⟩,
        some ⟨.get, none⟩, work⟩
  /-- A renewal is tried once more. -/
  | retries {wake deadline l l' observed d d' pending work}
      (due : Duration.ring wake ≤ now.instant) :
    Turn candidate now .tick
      ⟨⟨.retrying wake deadline, l, observed, d⟩, pending, work⟩
      ⟨⟨.renewing (.begin now) deadline, l', observed, d'⟩, some ⟨.get, none⟩, work⟩
  /-- An attempt to renew the lock goes on. -/
  | keepsAsking {attempt attempt' call deadline reply l l' observed observed' d d' pending work}
      (answer : attempt.answer candidate observed now reply = (observed', .ask attempt' call)) :
    Turn candidate now (.reply reply)
      ⟨⟨.renewing attempt deadline, l, observed, d⟩, pending, work⟩
      ⟨⟨.renewing attempt' deadline, l', observed', d'⟩, some ⟨call, none⟩, work⟩
  /-- The lock was renewed. -/
  | rests {attempt deadline reply l l' observed observed' d d' pending work}
      (answer : attempt.answer candidate observed now reply = (observed', .ended true)) :
    Turn candidate now (.reply reply)
      ⟨⟨.renewing attempt deadline, l, observed, d⟩, pending, work⟩
      ⟨⟨.resting (now.instant + candidate.timing.retry.nanos), l', observed', d'⟩, pending, work⟩
  /-- The lock was not renewed, and there is time to try again. -/
  | misses {attempt deadline reply l l' observed observed' d d' pending work}
      (answer : attempt.answer candidate observed now reply = (observed', .ended false))
      (early : now.instant + candidate.timing.retry.nanos < deadline) :
    Turn candidate now (.reply reply)
      ⟨⟨.renewing attempt deadline, l, observed, d⟩, pending, work⟩
      ⟨⟨.retrying (now.instant + candidate.timing.retry.nanos) deadline, l', observed', d'⟩,
        pending, work⟩
  /-- The lock was not renewed in time. -/
  | loses {attempt deadline reply l l' observed observed' d d' pending work}
      (answer : attempt.answer candidate observed now reply = (observed', .ended false)) :
    Turn candidate now (.reply reply)
      ⟨⟨.renewing attempt deadline, l, observed, d⟩, pending, work⟩
      ⟨⟨.stopping .lost (now.instant + candidate.timing.grace.nanos), l', observed', d'⟩,
        pending, false⟩
  /-- The run breaks down over the record that was read, and the work with it. -/
  | breaksDown {attempt deadline reply l l' observed observed' d d' pending work}
      (answer : attempt.answer candidate observed now reply = (observed', .overflow)) :
    Turn candidate now (.reply reply)
      ⟨⟨.renewing attempt deadline, l, observed, d⟩, pending, work⟩
      ⟨⟨.done, l', observed', d'⟩, pending, false⟩
  /-- The work is told to stop between two attempts. -/
  | stops {event phase ending l l' observed d d' pending work}
      (waits : phase.isAsking = false)
      (active : phase.isActive = true) :
    Turn candidate now event
      ⟨⟨phase, l, observed, d⟩, pending, work⟩
      ⟨⟨.stopping ending (now.instant + candidate.timing.grace.nanos), l', observed, d'⟩,
        pending, false⟩
  /-- The work is told to stop, and the pending call is given up. -/
  | breaksOff {event attempt deadline ending l l' observed d d' pending work} :
    Turn candidate now event
      ⟨⟨.renewing attempt deadline, l, observed, d⟩, pending, work⟩
      ⟨⟨.stopping ending (now.instant + candidate.timing.grace.nanos), l', observed, d'⟩,
        none, false⟩
  /-- The lock is to be given up after the work ended. -/
  | releases {event phase l l' observed d d' pending work work'}
      (ongoing : phase ≠ .done)
      (passive : event = .workEnded ∨ phase.isActive = false)
      (less : work' = true → work = true) :
    Turn candidate now event
      ⟨⟨phase, l, observed, d⟩, pending, work⟩
      ⟨⟨.releasing .reading, l', observed, d'⟩, some ⟨.get, none⟩, work'⟩
  /-- The lock is given up. -/
  | vacates {current l l' observed d d' pending work}
      (own : current.record.holder = candidate.identity) :
    Turn candidate now (.reply (.got (.ok (some current))))
      ⟨⟨.releasing .reading, l, observed, d⟩, pending, work⟩
      ⟨⟨.releasing (.writing (Release.vacate current.record now.clock)), l', observed, d'⟩,
        some ⟨.update (Release.vacate current.record now.clock) current.version, none⟩, work⟩
  /-- The run ends without the lock having been given up. -/
  | retires {release reply l l' observed d d' pending work} :
    Turn candidate now (.reply reply)
      ⟨⟨.releasing release, l, observed, d⟩, pending, work⟩
      ⟨⟨.done, l', observed, d'⟩, pending, work⟩
  /-- The run ends after the lock was given up. -/
  | retiresFree {released l l' observed d d' pending work} :
    Turn candidate now (.reply (.written (.ok ())))
      ⟨⟨.releasing (.writing released), l, observed, d⟩, pending, work⟩
      ⟨⟨.done, l', some ⟨released, "", now.instant⟩, d'⟩, pending, work⟩

section After

variable (candidate : Candidate) (now : Moment)

/-- A candidate that starts. -/
theorem turn_start (seat : Seat) :
    Turn candidate now .start seat (seat.after candidate now .start) := by
  obtain ⟨⟨phase, leadership, observed, shutDown⟩, pending, isWorking⟩ := seat
  cases phase <;> cases shutDown <;>
    simp only [after, actions, Candidacy.step, Candidacy.acquire, Candidacy.publish,
      Candidacy.after, Candidacy.tryAcquire, Candidacy.withdraw, Candidacy.finish,
      Candidacy.enter, List.cons_append, List.nil_append, List.foldl_cons, List.foldl_nil, act,
      if_true, if_false, Bool.false_eq_true]
  all_goals first | exact .stays (by simp) | exact .seeks nofun rfl rfl id | exact .leaves rfl rfl id

/-- The answer to a call of an attempt to get the lock. -/
theorem turn_reply_acquiring
    (attempt : Attempt)
    (leadership : Leadership)
    (observed : Option Observation)
    (shutDown : Bool)
    (pending : Option PendingCall)
    (isWorking : Bool)
    (reply : LockReply) :
    let seat : Seat := ⟨⟨.acquiring attempt, leadership, observed, shutDown⟩, pending, isWorking⟩
    Turn candidate now (.reply reply) seat (seat.after candidate now (.reply reply)) := by
  intro seat
  simp only [seat, after, actions, Candidacy.step, Candidacy.onReply]
  rcases answer : attempt.answer candidate observed now reply with ⟨observed', next⟩
  cases next with
  | ask attempt' call => exact .asks answer
  | ended success =>
    cases success <;> cases shutDown <;>
      simp only [Candidacy.lead, Candidacy.pause, Candidacy.stop, Candidacy.rest,
        Candidacy.publish, Candidacy.after, Candidacy.withdraw, Candidacy.finish,
        Candidacy.enter, List.cons_append, List.nil_append, List.foldl_cons, List.foldl_nil,
        act, if_true, if_false, Bool.false_eq_true]
    · exact .pauses answer
    · exact .giveUp answer
    · exact .leads answer
    · exact .leadsInVain answer
  | overflow => exact .collapses answer

/-- The answer to a call of an attempt to renew the lock. -/
theorem turn_reply_renewing
    (attempt : Attempt)
    (deadline : Nat)
    (leadership : Leadership)
    (observed : Option Observation)
    (shutDown : Bool)
    (pending : Option PendingCall)
    (isWorking : Bool)
    (reply : LockReply) :
    let seat : Seat :=
      ⟨⟨.renewing attempt deadline, leadership, observed, shutDown⟩, pending, isWorking⟩
    Turn candidate now (.reply reply) seat (seat.after candidate now (.reply reply)) := by
  intro seat
  simp only [seat, after, actions, Candidacy.step, Candidacy.onReply]
  rcases answer : attempt.answer candidate observed now reply with ⟨observed', next⟩
  cases next with
  | ask attempt' call => exact .keepsAsking answer
  | ended success =>
    cases success
    · simp only [Candidacy.miss]
      split
      · exact .loses answer
      · next early => exact .misses answer (by omega)
    · exact .rests answer
  | overflow => exact .breaksDown answer

/-- The answer to a call that is to give up the lock. -/
theorem turn_reply_releasing
    (release : Release)
    (leadership : Leadership)
    (observed : Option Observation)
    (shutDown : Bool)
    (pending : Option PendingCall)
    (isWorking : Bool)
    (reply : LockReply) :
    let seat : Seat :=
      ⟨⟨.releasing release, leadership, observed, shutDown⟩, pending, isWorking⟩
    Turn candidate now (.reply reply) seat (seat.after candidate now (.reply reply)) := by
  intro seat
  simp only [seat, after, actions, Candidacy.step]
  cases release with
  | reading =>
    obtain (result | _) := reply
    · obtain (_ | _ | current) := result
      · exact .retires
      · exact .retires
      · simp only [Candidacy.onReply]
        split
        · next own => exact .vacates own
        · exact .retires
    · exact .retires
  | writing released =>
    obtain (_ | result) := reply
    · exact .retires
    · obtain (_ | _) := result
      · exact .retires
      · exact .retiresFree

/-- The answer to a call. -/
theorem turn_reply (reply : LockReply) (seat : Seat) :
    Turn candidate now (.reply reply) seat (seat.after candidate now (.reply reply)) := by
  obtain ⟨⟨phase, leadership, observed, shutDown⟩, pending, isWorking⟩ := seat
  cases phase with
  | acquiring attempt => exact turn_reply_acquiring ..
  | renewing attempt deadline => exact turn_reply_renewing ..
  | releasing release => exact turn_reply_releasing ..
  | idle | pausing | resting | retrying | stopping | done => exact .stays fun _ _ => rfl

/-- The time at which a candidate goes on by itself. -/
theorem turn_tick (seat : Seat) :
    Turn candidate now .tick seat (seat.after candidate now .tick) := by
  obtain ⟨⟨phase, leadership, observed, shutDown⟩, pending, isWorking⟩ := seat
  by_cases due : ∃ time, (Candidacy.mk phase leadership observed shutDown).timer? = some time ∧
      time ≤ now.instant
  · obtain ⟨time, timer, due⟩ := due
    simp only [after, actions, Candidacy.step, timer, due, if_true]
    cases phase with
    | pausing wake => exact .seeks nofun rfl rfl id
    | resting wake =>
      obtain rfl : Duration.ring wake = time := by simpa [Candidacy.timer?] using timer
      exact .renews due
    | retrying wake deadline =>
      obtain rfl : Duration.ring wake = time := by simpa [Candidacy.timer?] using timer
      exact .retries due
    | renewing attempt deadline =>
      obtain rfl : Duration.ring deadline = time := by simpa [Candidacy.timer?] using timer
      have rung := Duration.le_ring deadline
      have late : deadline ≤ now.instant + candidate.timing.retry.nanos := by omega
      simp only [Candidacy.onTimer, Candidacy.miss, if_pos late]
      exact .breaksOff
    | stopping ending deadline =>
      cases ending with
      | lost =>
        cases shutDown
        · exact .seeks nofun rfl rfl (fun less => nomatch less)
        · exact .leaves rfl rfl (fun less => nomatch less)
      | shutDown => exact .releases nofun (.inr rfl) (fun less => nomatch less)
    | idle | acquiring | releasing | done => simp [Candidacy.timer?] at timer
  · have unchanged : (Candidacy.mk phase leadership observed shutDown).step candidate now .tick =
        (⟨phase, leadership, observed, shutDown⟩, []) := by
      simp only [Candidacy.step]
      split
      · next time timer =>
        rw [if_neg fun early => due ⟨time, timer, early⟩]
      · rfl
    simp only [after, actions, unchanged]
    exact .stays (by simp)

/-- The order to stop. -/
theorem turn_shutDown (seat : Seat) :
    Turn candidate now .shutDown seat (seat.after candidate now .shutDown) := by
  obtain ⟨⟨phase, leadership, observed, shutDown⟩, pending, isWorking⟩ := seat
  cases phase with
  | pausing wake => exact .leaves rfl rfl id
  | resting wake => exact .stops rfl rfl
  | retrying wake deadline => exact .stops rfl rfl
  | renewing attempt deadline => exact .breaksOff
  | idle | acquiring | stopping | releasing | done => exact .stays (by simp)

/-- The end of the work. -/
theorem turn_workEnded (seat : Seat) :
    Turn candidate now .workEnded seat (seat.after candidate now .workEnded) := by
  obtain ⟨⟨phase, leadership, observed, shutDown⟩, pending, isWorking⟩ := seat
  cases phase with
  | resting wake => exact .releases nofun (.inl rfl) id
  | retrying wake deadline => exact .releases nofun (.inl rfl) id
  | renewing attempt deadline => exact .releases nofun (.inl rfl) id
  | stopping ending deadline =>
    cases ending with
    | lost =>
      cases shutDown
      · exact .seeks nofun rfl rfl id
      · exact .leaves rfl rfl id
    | shutDown => exact .releases nofun (.inr rfl) id
  | idle | acquiring | pausing | releasing | done => exact .stays (by simp)

/-- An event takes a seat through one of its turns. -/
theorem turn_after (event : ElectionEvent) (seat : Seat) :
    Turn candidate now event seat (seat.after candidate now event) := by
  cases event with
  | start => exact turn_start candidate now seat
  | reply reply => exact turn_reply candidate now reply seat
  | tick => exact turn_tick candidate now seat
  | shutDown => exact turn_shutDown candidate now seat
  | workEnded => exact turn_workEnded candidate now seat

end After

/-- A candidate that is done stays so. -/
theorem Turn.done
    {candidate : Candidate}
    {now : Moment}
    {event : ElectionEvent}
    {seat next : Seat}
    (turn : Turn candidate now event seat next)
    (done : seat.candidacy.phase = .done) :
    next.candidacy.phase = .done := by
  cases turn <;> simp_all [Phase.isActive]

end Seat

/-! ## Calls that are given up -/

namespace Candidacy

/-- A step does not give up the pending call. -/
def KeepsCall (step : Step) : Prop :=
  .abandonCall ∉ step.2

section KeepsCall

variable (candidate : Candidate) (now : Moment) (candidacy : Candidacy)

@[simp] theorem keepsCall_unchanged : KeepsCall (candidacy, []) := by
  simp [KeepsCall]

@[simp] theorem keepsCall_after (actions : List ElectionAction) (step : Step) :
    KeepsCall (after actions step) ↔ .abandonCall ∉ actions ∧ KeepsCall step := by
  simp [KeepsCall, after]

@[simp] theorem keepsCall_enter (phase : Phase) : KeepsCall (candidacy.enter phase) := by
  simp [KeepsCall, enter]

@[simp] theorem keepsCall_publish (leadership : Leadership) (next : Candidacy → Step) :
    KeepsCall (candidacy.publish leadership next) ↔
      KeepsCall (next { candidacy with leadership }) := by
  simp [publish]

@[simp] theorem keepsCall_finish : KeepsCall candidacy.finish := by
  simp [finish]

@[simp] theorem keepsCall_breakDown : KeepsCall candidacy.breakDown := by
  simp [breakDown]

@[simp] theorem keepsCall_withdraw : KeepsCall candidacy.withdraw := by
  simp [withdraw]

@[simp] theorem keepsCall_tryAcquire : KeepsCall (candidacy.tryAcquire now) := by
  simp [tryAcquire]

@[simp] theorem keepsCall_acquire : KeepsCall (candidacy.acquire now) := by
  unfold acquire
  rw [keepsCall_publish]
  split <;> simp

@[simp] theorem keepsCall_tryRenew (deadline : Nat) :
    KeepsCall (candidacy.tryRenew now deadline) := by
  simp [tryRenew]

@[simp] theorem keepsCall_stop (ending : Ending) :
    KeepsCall (candidacy.stop candidate ending now) := by
  simp [stop]

@[simp] theorem keepsCall_rest : KeepsCall (candidacy.rest candidate now) := by
  simp [rest]

@[simp] theorem keepsCall_lead : KeepsCall (candidacy.lead candidate now) := by
  unfold lead
  rw [keepsCall_publish, keepsCall_after]
  refine ⟨by simp, ?_⟩
  split <;> simp

@[simp] theorem keepsCall_pause : KeepsCall (candidacy.pause candidate now) := by
  unfold pause
  split <;> simp

@[simp] theorem keepsCall_release : KeepsCall candidacy.release := by
  simp [release]

@[simp] theorem keepsCall_retire : KeepsCall candidacy.retire := by
  simp [retire]

@[simp] theorem keepsCall_stopped (ending : Ending) :
    KeepsCall (candidacy.stopped ending now) := by
  cases ending <;> simp [stopped]

/-- Only a renewal is given up. -/
theorem keepsCall_step
    {candidate : Candidate}
    {now : Moment}
    {candidacy : Candidacy}
    (other : ∀ attempt deadline, candidacy.phase ≠ .renewing attempt deadline)
    (event : ElectionEvent) :
    KeepsCall (candidacy.step candidate now event) := by
  obtain ⟨phase, leadership, observed, shutDown⟩ := candidacy
  cases event with
  | start => cases phase <;> simp [step]
  | reply reply =>
    simp only [step, onReply]
    split
    · split <;> simp
    · exact absurd rfl (other _ _)
    · split <;> simp
    all_goals simp
  | tick =>
    simp only [step]
    split
    · split
      · cases phase <;> simp_all [onTimer]
      · simp
    · simp
  | shutDown => cases phase <;> simp_all [step, onShutDown]
  | workEnded => cases phase <;> simp_all [step, onWorkEnded]

end KeepsCall

end Candidacy

namespace Seat

variable {candidate : Candidate} {now : Moment} {event : ElectionEvent} {seat : Seat}
  {call : LockCall}

theorem mem_unserved : call ∈ seat.unserved ↔ seat.pending = some ⟨call, none⟩ := by
  unfold unserved
  split <;> simp_all [eq_comm]

/-- The call that is given up is one of a renewal that the lock did not deal with. -/
theorem eq_of_mem_givenUp (givenUp : call ∈ seat.givenUp candidate now event) :
    seat.pending = some ⟨call, none⟩ ∧
      ∃ attempt deadline, seat.candidacy.phase = .renewing attempt deadline := by
  unfold Seat.givenUp at givenUp
  split at givenUp
  · next abandons =>
    refine ⟨mem_unserved.mp givenUp, ?_⟩
    by_contra other
    exact Candidacy.keepsCall_step (fun attempt deadline same =>
      other ⟨attempt, deadline, same⟩) event abandons
  · simp at givenUp

/-- A seat without a pending call gives up none. -/
theorem givenUp_eq_nil (quiet : seat.pending = none) : seat.givenUp candidate now event = [] := by
  rw [List.eq_nil_iff_forall_not_mem]
  intro call givenUp
  have pending := (eq_of_mem_givenUp givenUp).1
  simp [quiet] at pending

/-- A candidate whose last write failed is done. -/
theorem phase_after_failed_release
    {released : Record}
    (releasing : seat.candidacy.phase = .releasing (.writing released))
    (fault : Fault) :
    (seat.after candidate now (.reply (.written (.error fault)))).candidacy.phase = .done := by
  obtain ⟨⟨phase, leadership, observed, shutDown⟩, pending, isWorking⟩ := seat
  obtain rfl : phase = _ := releasing
  rfl

end Seat

end VolumeAttacher
