import VolumeAttacher.Proofs.Controller.Clock
import VolumeAttacher.Proofs.Controller.Listing
import VolumeAttacher.Proofs.Controller.Marks

/-!
# Delays after failed driver calls

A name whose driver call failed is worked on again after a delay. When the delay is kept, and when
not: a name that is brought up meanwhile is worked on at once, and the report of the failure in the
status of the attachment is a change that brings it up.
-/

namespace VolumeAttacher

/-- The time after which a name is put back because of a fault, if it is. The interval is the next
one of the name. -/
def Fault.delay (interval : Nat) (fault : Fault) : Option Nat :=
  match fault.retry with
  | .backoff => some interval
  | .after delay => some delay.nanos
  | .never => none

theorem Routing.settle_error (queue : WorkQueue String) (key : String) (fault : Fault) :
    (Routing.settle queue key (.error fault)).2 = fault.delay (queue.backoff key).interval := by
  simp only [Routing.settle, Fault.delay]
  cases fault.retry <;> rfl

/-- A delay since a moment is not over. Without a delay nothing is to happen at all. -/
def Early (delay : Option Nat) (since moment : Nat) : Prop :=
  ∀ nanos ∈ delay, moment < since + nanos

theorem Early.mono
    {delay : Option Nat}
    {since moment earlier : Nat}
    (early : Early delay since moment)
    (before : earlier ≤ moment) :
    Early delay since earlier :=
  fun nanos isDelay => Nat.lt_of_le_of_lt before (early nanos isDelay)

theorem not_early_of_mem
    {delay : Option Nat}
    {since moment nanos : Nat}
    (isDelay : nanos ∈ delay)
    (passed : since + nanos ≤ moment) :
    ¬ Early delay since moment :=
  fun early => absurd (early nanos isDelay) (Nat.not_lt_of_le passed)

namespace Term

variable {term next : Term} {task : Task}

/-- A name whose driver call failed is left alone: nothing brought it up, and a job that still is
there for it ends with the fault and so with its delay. -/
structure Hushed (fault : Fault) (delay : Option Nat) (task : Task) (term : Term) : Prop where
  unmarked : term.stage ≠ .stopping → ¬ term.Marked task
  failed : ∀ job ∈ term.jobs, job.task = task →
    job.rest.Follows Reconciliation.failing Reconciliation.Surfaces (some fault) ∧
      fault.delay (term.interval task) = delay

namespace Hushed

variable {fault : Fault} {delay : Option Nat}

/-- A job that goes on or is over leaves a name alone if the job is about another one, or ends with
the fault. -/
theorem proceed
    {job : Job}
    (unmarked : term.stage ≠ .stopping → ¬ term.Marked task)
    (failed : ∀ other ∈ job :: term.others job.task, other.task = task →
      other.rest.Follows Reconciliation.failing Reconciliation.Surfaces (some fault) ∧
        fault.delay (term.interval task) = delay) :
    (term.proceed job).1.Hushed fault delay task ∧
      ∀ later ∈ (term.proceed job).2, later.task = task → later.nanos ∈ delay := by
  have stays : (term.proceed job).1.stage ≠ .stopping → ¬ (term.proceed job).1.Marked task := by
    rw [stage_proceed, marked_proceed]
    exact unmarked
  cases rest : job.rest with
  | ask request resume =>
    rw [proceed_ask rest] at stays ⊢
    exact ⟨⟨stays, failed⟩, nofun⟩
  | done result =>
    refine ⟨⟨stays, ?_⟩, ?_⟩
    · intro other present about
      rw [proceed_done rest, settle_eq, jobs_withQueue] at present
      have differs := (mem_others.mp present).2
      rw [interval_proceed_of_ne (about ▸ differs)]
      exact failed other (List.mem_cons_of_mem _ present) about
    · intro later isSet about
      rw [proceed_done rest, settle_eq] at isSet
      obtain ⟨nanos, isDelay, rfl⟩ := Option.map_eq_some_iff.mp (Option.mem_toList.mp isSet)
      obtain ⟨follows, interval⟩ := failed job List.mem_cons_self about
      rw [rest] at follows
      obtain rfl := follows fault rfl
      rw [Routing.settle_error] at isDelay
      rw [← interval, ← about]
      exact isDelay

/-- A name is left alone by whatever does not bring it up. -/
theorem passage
    {controller : Controller}
    {event : ControllerEvent}
    {delayed : List Delayed}
    (hushed : term.Hushed fault delay task)
    (sound : term.Sound)
    (passage : controller.Passage term event next delayed)
    (quiet : term.stage ≠ .stopping → task ∉ controller.brought term event) :
    next.Hushed fault delay task ∧
      ∀ later ∈ delayed, later.task = task → later.nanos ∈ delay := by
  have queued (goesOn : term.stage ≠ .stopping) :
      ¬ (term.addAll (controller.brought term event)).Marked task := by
    rw [marked_addAll]
    rintro (marked | ⟨-, brought⟩)
    · exact hushed.unmarked goesOn marked
    · exact quiet goesOn brought
  cases passage with
  | adds =>
    refine ⟨⟨fun goesOn => queued (by simpa using goesOn), ?_⟩, nofun⟩
    intro job present about
    rw [interval_addAll]
    exact hushed.failed job (by simpa using present) about
  | begins waits ready =>
    refine ⟨⟨fun _ => queued (by simp [waits]), ?_⟩, nofun⟩
    intro job present about
    have same := interval_addAll term (controller.brought term .ready) task
    obtain ⟨follows, interval⟩ := hushed.failed job
      ((jobs_addAll term (controller.brought term .ready)) ▸ present) about
    exact ⟨follows, by rw [← interval, ← same]; rfl⟩
  | @takes subject queue name works handed free =>
    have unmarked : ¬ term.Marked task := hushed.unmarked (by simp [works])
    apply proceed (fun _ marked => unmarked (marked_of_marked_handed handed marked))
    intro other present about
    obtain rfl | present := List.mem_cons.mp present
    · exact absurd (about ▸ sound.marked_of_handed handed) unmarked
    · rw [interval_handed handed]
      exact hushed.failed other (by simpa using (mem_others.mp present).1) about
  | answers request resume waits =>
    apply proceed hushed.unmarked
    intro other present about
    obtain rfl | present := List.mem_cons.mp present
    · obtain ⟨follows, interval⟩ := hushed.failed _ waits about
      exact ⟨(Reconciliation.failing_of_failed follows).2 _, interval⟩
    · exact hushed.failed other (mem_others.mp present).1 about
  | ignores nobody => exact ⟨hushed, nofun⟩
  | cancels =>
    refine ⟨⟨fun goesOn => absurd rfl goesOn, ?_⟩, nofun⟩
    intro job present about
    obtain ⟨follows, interval⟩ := hushed.failed job present about
    refine ⟨follows, Eq.trans ?_ interval⟩
    obtain ⟨subject, name⟩ := task
    cases subject <;> rfl

end Hushed

end Term

namespace Controller

variable {controller : Controller} {task : Task}

/-- The driver is being called for a name. -/
def Calls (controller : Controller) (task : Task) : Prop :=
  ∃ request resume, ⟨task, .ask request resume⟩ ∈ controller.jobs ∧ request.isDriverCall = true

/-- A name waits for a worker. -/
def Waits (controller : Controller) (task : Task) : Prop :=
  ∃ term, controller.term = some term ∧ term.stage ≠ .stopping ∧
    task.name ∈ (term.queue task.subject).waiting

/-- The driver is being called for a name, or a worker is to take it. -/
def Engages (controller : Controller) (task : Task) : Prop :=
  controller.Calls task ∨ controller.Waits task

/-- A name that is brought to an open queue is marked. -/
theorem Passage.marked_of_brought
    {term next : Term}
    {event : ControllerEvent}
    {delayed : List Delayed}
    (passage : controller.Passage term event next delayed)
    (opened : (term.queue task.subject).closed = false)
    (goesOn : term.stage ≠ .stopping)
    (brought : task ∈ controller.brought term event) :
    next.stage ≠ .stopping ∧ next.Marked task := by
  have marked : (term.addAll (controller.brought term event)).Marked task :=
    Term.marked_addAll.mpr (.inr ⟨opened, brought⟩)
  cases passage with
  | adds => exact ⟨by simpa using goesOn, marked⟩
  | begins => exact ⟨nofun, marked⟩
  | takes | answers | ignores | cancels => exact absurd brought List.not_mem_nil

/-- An event that is no alarm brings up a name in a term that is not to stop. -/
def IsTold (controller : Controller) (task : Task) (event : ControllerEvent) : Prop :=
  (∀ number other, event ≠ .due number other) ∧
    ∃ term, controller.term = some term ∧ term.stage ≠ .stopping ∧
      task ∈ controller.brought term event

end Controller

namespace TimedController

variable {timed : TimedController} {task : Task} {fault : Fault} {delay : Option Nat} {since : Nat}

/-- A name that was brought up already, or has an alarm that rings before its delay is over. -/
def Recalls (timed : TimedController) (task : Task) (delay : Option Nat) (since : Nat) : Prop :=
  ∃ term, timed.controller.term = some term ∧ term.stage ≠ .stopping ∧
    (term.Marked task ∨ ∃ alarm ∈ timed.alarms, alarm.number = term.number ∧
      alarm.task = task ∧ Early delay since alarm.time)

/-- A name whose driver call failed at a moment is left alone until its delay is over. -/
structure Hushed (fault : Fault) (delay : Option Nat) (task : Task) (since : Nat)
    (timed : TimedController) : Prop where
  terms : ∀ term, timed.controller.term = some term → term.Hushed fault delay task
  alarms : ∀ term, timed.controller.term = some term → term.stage ≠ .stopping →
    ∀ alarm ∈ timed.alarms, alarm.number = term.number → alarm.task = task →
      ¬ Early delay since alarm.time

namespace Hushed

/-- A name is left alone by an event that does not bring it up. -/
theorem after
    {event : ControllerEvent}
    (hushed : timed.Hushed fault delay task since)
    (orderly : timed.Orderly)
    (later : since ≤ timed.now)
    (quiet : ∀ term, timed.controller.term = some term → term.stage ≠ .stopping →
      task ∉ timed.controller.brought term event) :
    (timed.after event).Hushed fault delay task since := by
  cases running : timed.controller.term with
  | none =>
    obtain ⟨nothing, ⟨-, started⟩ | ended⟩ := timed.controller.step_idle event running
    · refine ⟨fun next present => ?_, fun next present _ alarm isSet number => ?_⟩
      all_goals
        simp only [TimedController.after, started] at present
        obtain rfl := Option.some.inj present
      · refine ⟨?_, fun job present => absurd present List.not_mem_nil⟩
        intro _ marked
        obtain ⟨subject, name⟩ := task
        cases subject <;> exact absurd marked List.not_mem_nil
      · have old : alarm ∈ timed.alarms := by
          simpa [TimedController.after, alarmsFor, running] using isSet
        exact absurd number (Nat.ne_of_lt (orderly.alarms alarm old))
    · constructor
      all_goals
        intro next present
        simp [TimedController.after, ended] at present
  | some term =>
    obtain ⟨-, ended⟩ | ⟨other, goesOn, passage⟩ := Controller.passage_step event running
    · constructor
      all_goals
        intro next present
        simp [TimedController.after, ended] at present
    · obtain ⟨kept, times⟩ := (hushed.terms term running).passage (orderly.sound term running)
        passage (quiet term running)
      refine ⟨fun next present => ?_, fun next present isOn alarm isSet number about => ?_⟩
      all_goals obtain rfl := Option.some.inj (goesOn.symm.trans present)
      · exact kept
      · obtain fresh | old := List.mem_append.mp isSet
        · obtain ⟨_, _, delayed, isDelayed, rfl⟩ := mem_alarmsFor.mp fresh
          exact not_early_of_mem (times delayed isDelayed about) (Nat.add_le_add_right later _)
        · exact hushed.alarms term running (passage.goesOn isOn) alarm old
            (number.trans passage.number_eq) about

/-- A name is left alone by every step before its delay is over that does not bring it up. -/
theorem step
    {allowed : Controller → ControllerEvent → Prop}
    {next : TimedController}
    (hushed : timed.Hushed fault delay task since)
    (orderly : timed.Orderly)
    (later : since ≤ timed.now)
    (early : Early delay since timed.now)
    (quiet : ∀ event, allowed timed.controller event → ¬ timed.controller.IsTold task event)
    (step : Step allowed timed next) :
    next.Hushed fault delay task since := by
  cases step with
  | event event isAllowed noAlarm =>
    exact hushed.after orderly later fun term running goesOn brought =>
      quiet event isAllowed ⟨noAlarm, term, running, goesOn, brought⟩
  | ring alarm isSet isDue =>
    have kept : (timed.after (.due alarm.number alarm.task)).Hushed fault delay task since := by
      apply hushed.after orderly later
      intro term running goesOn brought
      obtain ⟨number, about⟩ : term.number = alarm.number ∧ task = alarm.task := by
        simpa [Controller.brought] using brought
      exact hushed.alarms term running goesOn alarm isSet number.symm about.symm (early.mono isDue)
    refine ⟨kept.terms, ?_⟩
    intro term running goesOn other isSet
    exact kept.alarms term running goesOn other
      (List.mem_append_right _ (List.mem_of_mem_erase isSet))
  | wait moment later => exact ⟨hushed.terms, hushed.alarms⟩

/-- A name is left alone until its delay is over if nothing that happens before brings it up. -/
theorem leads
    {allowed : Controller → ControllerEvent → Prop}
    {later : TimedController}
    (hushed : timed.Hushed fault delay task since)
    (orderly : timed.Orderly)
    (after : since ≤ timed.now)
    (quiet : ∀ later event, Leads allowed timed later → Early delay since later.now →
      allowed later.controller event → ¬ later.controller.IsTold task event)
    (leads : Leads allowed timed later)
    (early : Early delay since later.now) :
    later.Hushed fault delay task since := by
  induction leads with
  | refl => exact hushed
  | tail before step ih =>
    have before_early := early.mono (Leads.now_le (.single step))
    exact (ih before_early).step (orderly.leads before) (Nat.le_trans after (Leads.now_le before))
      before_early (fun event => quiet _ event before before_early) step

/-- The driver is not called for a name that is left alone, and no worker is to take it. -/
theorem not_engages
    (hushed : timed.Hushed fault delay task since)
    (orderly : timed.Orderly) :
    ¬ timed.controller.Engages task := by
  rintro (⟨request, resume, present, calls⟩ | ⟨term, running, goesOn, waits⟩)
  · cases running : timed.controller.term with
    | none => simp [Controller.jobs_of_idle running] at present
    | some term =>
      rw [Controller.jobs_of_running running] at present
      have follows := ((hushed.terms term running).failed _ present rfl).1
      exact (Reconciliation.failing_of_failed follows).1 calls
  · exact (hushed.terms term running).unmarked goesOn
      (((orderly.sound term running).queues task.subject).dirty task.name waits)

end Hushed

section Recall

variable {allowed : Controller → ControllerEvent → Prop} {term : Term}

/-- A name that was brought up is handed out again as soon as the job that has it is over. -/
theorem exists_engages_of_answer
    {reply : (request : Request) → request.Answer}
    {rest : Dialogue Request Request.Answer (Except Fault Unit)}
    (answers : ∀ controller, allowed controller (.answer task reply))
    (orderly : timed.Orderly)
    (running : timed.controller.term = some term)
    (goesOn : term.stage ≠ .stopping)
    (marked : term.Marked task)
    (present : ⟨task, rest⟩ ∈ term.jobs) :
    ∃ later, Leads allowed (timed.after (.answer task reply)) later ∧ later.now = timed.now ∧
      later.controller.Engages task := by
  induction rest generalizing timed term with
  | done result =>
    obtain ⟨request, resume, asks⟩ := (orderly.sound term running).asking _ present
    cases asks
  | ask request resume ih =>
    have answered := orderly.term_after_answer reply running present
    have isOn : (term.proceed ⟨task, resume (reply request)⟩).1.stage ≠ .stopping := by
      rwa [Term.stage_proceed]
    cases next : resume (reply request) with
    | done result =>
      refine ⟨_, .refl, rfl, .inr ⟨_, answered, isOn, ?_⟩⟩
      obtain ⟨failures, settled⟩ :=
        Routing.settle_eq (term.queue task.subject) task.name result
      rw [next, Term.proceed_done rfl, Term.settle_eq, settled, Term.queue_withQueue_self]
      exact WorkQueue.mem_waiting_done
        ((orderly.attended term running).opened goesOn task.subject) marked
    | ask other resumeOther =>
      have asks : ⟨task, resume (reply request)⟩ ∈
          (term.proceed ⟨task, resume (reply request)⟩).1.jobs := by
        rw [next, Term.proceed_ask rfl]
        exact List.mem_cons_self
      obtain ⟨later, leads, now, engages⟩ := ih (reply request) (orderly.after _) answered isOn
        (Term.marked_proceed.mpr marked) asks
      exact ⟨later, .head (.event _ (answers _) nofun) leads, now, engages⟩

/-- A name that was brought up is handed out again before any time passes. -/
theorem exists_engages_of_marked
    (answers : ∀ controller reply, allowed controller (.answer task reply))
    (reply : (request : Request) → request.Answer)
    (orderly : timed.Orderly)
    (running : timed.controller.term = some term)
    (goesOn : term.stage ≠ .stopping)
    (marked : term.Marked task) :
    ∃ later, Leads allowed timed later ∧ later.now = timed.now ∧
      later.controller.Engages task := by
  have opened := (orderly.attended term running).opened goesOn task.subject
  obtain waits | taken := ((orderly.sound term running).queues task.subject).held opened _ marked
  · exact ⟨timed, .refl, rfl, .inr ⟨term, running, goesOn, waits⟩⟩
  · obtain ⟨⟨about, rest⟩, present, rfl⟩ := (orderly.attended term running).worked task taken
    obtain ⟨later, leads, now, engages⟩ := exists_engages_of_answer
      (fun controller => answers controller reply) orderly running goesOn marked present
    exact ⟨later, .head (.event _ (answers _ reply) nofun) leads, now, engages⟩

/-- A name that is told of is handed out again before any time passes. -/
theorem exists_engages_of_isTold
    {event : ControllerEvent}
    (answers : ∀ controller reply, allowed controller (.answer task reply))
    (reply : (request : Request) → request.Answer)
    (orderly : timed.Orderly)
    (isAllowed : allowed timed.controller event)
    (isTold : timed.controller.IsTold task event) :
    ∃ later, Leads allowed timed later ∧ later.now = timed.now ∧
      later.controller.Engages task := by
  obtain ⟨noAlarm, term, running, goesOn, brought⟩ := isTold
  obtain ⟨rfl, -⟩ | ⟨next, present, passage⟩ := Controller.passage_step event running
  · exact absurd brought List.not_mem_nil
  obtain ⟨isOn, marked⟩ := passage.marked_of_brought
    ((orderly.attended term running).opened goesOn task.subject) goesOn brought
  obtain ⟨later, leads, now, engages⟩ :=
    exists_engages_of_marked answers reply (orderly.after event) present isOn marked
  exact ⟨later, .head (.event event isAllowed noAlarm) leads, now, engages⟩

/-- A name with an alarm is handed out again when the alarm rings, if that is not in the past. -/
theorem exists_engages_of_alarm
    {alarm : Alarm}
    (answers : ∀ controller reply, allowed controller (.answer task reply))
    (reply : (request : Request) → request.Answer)
    (orderly : timed.Orderly)
    (running : timed.controller.term = some term)
    (goesOn : term.stage ≠ .stopping)
    (isSet : alarm ∈ timed.alarms)
    (number : alarm.number = term.number)
    (about : alarm.task = task) :
    ∃ later, Leads allowed timed later ∧ later.now = max timed.now alarm.time ∧
      later.controller.Engages task := by
  let waited : TimedController := { timed with now := max timed.now alarm.time }
  have waits : Step allowed timed waited := .wait _ (Nat.le_max_left _ _)
  let rung : TimedController :=
    { waited.after (.due alarm.number alarm.task) with alarms := waited.alarms.erase alarm }
  have rings : Step allowed waited rung := .ring alarm isSet (Nat.le_max_right _ _)
  have present : rung.controller.term = some (term.add task) := by
    have running : waited.controller.term = some term := running
    simp only [rung, TimedController.after, Controller.step_due,
      Controller.inTerm_of_running _ running, number, about, if_true]
  have opened := (orderly.attended term running).opened goesOn task.subject
  obtain ⟨later, leads, now, engages⟩ := exists_engages_of_marked answers reply
    ((orderly.step waits).step rings) present (by simpa [Term.add] using goesOn)
    (Term.marked_add.mpr (.inr ⟨opened, rfl⟩))
  exact ⟨later, .head waits (.head rings leads), now, engages⟩

end Recall

/-- A name whose driver call failed is left alone, unless it was brought up already. -/
theorem hushed_after_failure
    {term : Term}
    {request : Request}
    {resume : request.Answer → Dialogue Request Request.Answer (Except Fault Unit)}
    {reply : (request : Request) → request.Answer}
    (orderly : timed.Orderly)
    (running : timed.controller.term = some term)
    (calls : ⟨task, .ask request resume⟩ ∈ term.jobs)
    (failed : request.driverFault? (reply request) = some fault)
    (fresh : ¬ timed.Recalls task (fault.delay (term.interval task)) timed.now) :
    (timed.after (.answer task reply)).Hushed fault (fault.delay (term.interval task)) task
      timed.now := by
  have unmarked (goesOn : term.stage ≠ .stopping) : ¬ term.Marked task :=
    fun marked => fresh ⟨term, running, goesOn, .inl marked⟩
  obtain ⟨known, follows⟩ := orderly.surfaces _ (Controller.jobs_of_running running ▸ calls)
  have surfaces : (resume (reply request)).Follows Reconciliation.failing
      Reconciliation.Surfaces (some fault) := by
    have goesOn := follows.2 (reply request)
    simpa [Reconciliation.failing, failed] using goesOn
  obtain ⟨kept, times⟩ := Term.Hushed.proceed unmarked (fun other present about => by
    obtain rfl | present := List.mem_cons.mp present
    · exact ⟨surfaces, rfl⟩
    · exact absurd about (Term.mem_others.mp present).2 :
    ∀ other ∈ (⟨task, resume (reply request)⟩ : Job) :: term.others task, other.task = task →
      other.rest.Follows Reconciliation.failing Reconciliation.Surfaces (some fault) ∧
        fault.delay (term.interval task) = fault.delay (term.interval task))
  have answered := (orderly.sound term running).step_answer reply running calls
  refine ⟨fun next present => ?_, fun next present goesOn alarm isSet number about => ?_⟩
  all_goals
    simp only [TimedController.after, answered] at present
    obtain rfl := Option.some.inj present
  · exact kept
  · simp only [TimedController.after, answered] at isSet
    obtain new | old := List.mem_append.mp isSet
    · obtain ⟨_, _, delayed, isDelayed, rfl⟩ := mem_alarmsFor.mp new
      exact not_early_of_mem (times delayed isDelayed about) (Nat.le_refl _)
    · rw [Term.stage_proceed] at goesOn
      rw [Term.number_proceed] at number
      exact fun early => fresh ⟨term, running, goesOn, .inr ⟨alarm, old, number, about, early⟩⟩

/-- The delay after a failed driver call is kept if and only if nothing brings up the name before
it is over: neither while the driver was called, nor by an alarm of an earlier failure, nor by an
event later on. -/
theorem Reachable.delay_kept_iff
    {start : Controller}
    {allowed : Controller → ControllerEvent → Prop}
    {term : Term}
    {request : Request}
    {resume : request.Answer → Dialogue Request Request.Answer (Except Fault Unit)}
    {reply : (request : Request) → request.Answer}
    (idle : start.term = none)
    (reachable : Reachable start timed)
    (running : timed.controller.term = some term)
    (calls : ⟨task, .ask request resume⟩ ∈ term.jobs)
    (failed : request.driverFault? (reply request) = some fault)
    (isDelay : fault.delay (term.interval task) = delay)
    (someDelay : 0 ∉ delay)
    (answers : ∀ controller reply, allowed controller (.answer task reply)) :
    (∀ later, Leads allowed (timed.after (.answer task reply)) later →
        Early delay timed.now later.now → ¬ later.controller.Engages task) ↔
      ¬ timed.Recalls task delay timed.now ∧
        ∀ later event, Leads allowed (timed.after (.answer task reply)) later →
          Early delay timed.now later.now → allowed later.controller event →
          ¬ later.controller.IsTold task event := by
  have orderly := reachable.orderly idle
  have orderlyAfter := orderly.after (.answer task reply)
  subst isDelay
  constructor
  · intro leftAlone
    have early : Early (fault.delay (term.interval task)) timed.now timed.now :=
      fun nanos isDelay => Nat.lt_add_of_pos_right (Nat.pos_of_ne_zero fun zero =>
        someDelay (zero ▸ isDelay))
    constructor
    · rintro ⟨_, same, goesOn, marked | ⟨alarm, isSet, number, about, before⟩⟩
      all_goals obtain rfl := Option.some.inj (running.symm.trans same)
      · obtain ⟨later, leads, now, engages⟩ := exists_engages_of_answer
          (fun controller => answers controller reply) orderly running goesOn marked calls
        exact leftAlone later leads (now ▸ early) engages
      · have answered := orderly.term_after_answer reply running calls
        obtain ⟨later, leads, now, engages⟩ := exists_engages_of_alarm answers reply orderlyAfter
          answered (by simpa using goesOn) (List.mem_append_right _ isSet) (by simpa using number)
          about
        refine leftAlone later leads ?_ engages
        intro nanos isDelay
        rw [now]
        exact Nat.max_lt.mpr ⟨early nanos isDelay, before nanos isDelay⟩
    · intro later event leads before isAllowed isTold
      obtain ⟨next, goesOn, now, engages⟩ := exists_engages_of_isTold answers reply
        (orderlyAfter.leads leads) isAllowed isTold
      exact leftAlone next (leads.trans goesOn) (now ▸ before) engages
  · rintro ⟨fresh, quiet⟩ later leads early
    have hushed := hushed_after_failure orderly running calls failed fresh
    exact (hushed.leads orderlyAfter (Nat.le_refl _) quiet leads early).not_engages
      (orderlyAfter.leads leads)

/-! ## A report that is told -/

/-- Events that are no alarms may happen one after the other. -/
theorem leads_foldl
    (timed : TimedController)
    (events : List ControllerEvent)
    (noAlarms : ∀ event ∈ events, ∀ number other, event ≠ .due number other) :
    Leads Anything timed (events.foldl after timed) := by
  induction events generalizing timed with
  | nil => exact .refl
  | cons event rest ih =>
    exact .head (.event event trivial (noAlarms event List.mem_cons_self))
      (ih _ fun other later => noAlarms other (List.mem_cons_of_mem _ later))

/-- Metadata with the finalizer of the driver. -/
def heldMetadata (name version : String) : Metadata :=
  { Metadata.empty with
      name := some name
      resourceVersion := some version
      finalizers := [History.hostPath.finalizer] }

/-- A volume of the driver. -/
def boundVolume : PersistentVolume where
  metadata := heldMetadata "pv-1" "1"
  spec := some
    { accessModes := ["ReadWriteOnce"]
      volumeMode := none
      mountOptions := []
      source := some
        { DriverSource.empty with driver := "hostpath.csi.k8s.io", handle := "handle-pv-1" } }

/-- An attachment of the volume, in one of its versions. -/
def boundAttachment (version : String) : VolumeAttachment where
  metadata :=
    { heldMetadata "va-1" version with annotations := [(attachmentNodeIdKey, "node-1-id")] }
  attacher := "hostpath.csi.k8s.io"
  nodeName := "node-1"
  volumeName := some "pv-1"
  attached := false

/-- The name of the attachment. -/
def boundTask : Task := ⟨.attachment, "va-1"⟩

/-- The driver is busy and the cluster accepts everything. -/
def busyDriver : (request : Request) → request.Answer
  | .publish _ _ => .answered (.error (.driverStatus publishOperation .unavailable "busy"))
  | .unpublish _ _ => .answered (.error (.driverStatus unpublishOperation .unavailable "busy"))
  | .getSecret _ _ => .ok []
  | .record _ _ => ()
  | .addAttachmentFinalizer _ _ _ | .removeAttachmentFinalizer _ _ => .ok ()
  | .addVolumeFinalizer _ _ | .removeVolumeFinalizer _ _ => .ok ()
  | .patchStatus _ _ => .ok ()

/-- All feeds list their objects, and a worker takes the attachment. -/
def opening : List ControllerEvent :=
  [.start, .changed (.attachments (.listed [boundAttachment "1"])),
    .changed (.volumes (.listed [boundVolume])), .changed (.nodes (.listed [])),
    .changed (.registrations (.listed [])), .ready, .take .attachment]

/-- The controller while the driver is called for the attachment. -/
def calling : TimedController := opening.foldl after ⟨History.hostPathController, 0, []⟩

theorem reachable_calling : Reachable History.hostPathController calling :=
  leads_foldl _ opening (by simp [opening])

/-- The failure is counted and reported, the feed tells of the changed status, and a worker asks for
a name. -/
def reporting : List ControllerEvent :=
  [.answer boundTask busyDriver, .answer boundTask busyDriver,
    .changed (.attachments (.applied (boundAttachment "2"))), .take .attachment]

/-- The driver is called for an attachment again right after a call that is to be tried again after
a second: the feed told of the report. -/
theorem recalled_by_report :
    Reachable History.hostPathController calling ∧
      ∃ term request resume fault, calling.controller.term = some term ∧
        ⟨boundTask, .ask request resume⟩ ∈ term.jobs ∧
        request.driverFault? (busyDriver request) = some fault ∧
        fault.delay (term.interval boundTask) = some (Duration.ofSeconds 1).nanos ∧
        ∃ later, Leads Anything (calling.after (.answer boundTask busyDriver)) later ∧
          later.now < calling.now + (Duration.ofSeconds 1).nanos ∧
          later.controller.Calls boundTask :=
  ⟨reachable_calling, _, _, _, _, rfl, .head _, rfl, by decide, _,
    leads_foldl _ reporting (by simp [reporting]), by decide, _, _, .head _, rfl⟩

/-- The delay of a second is kept if nothing tells of the attachment meanwhile. -/
theorem delay_kept_without_report :
    Reachable History.hostPathController calling ∧
      ∀ later, Leads (fun controller event => ¬ controller.IsTold boundTask event)
          (calling.after (.answer boundTask busyDriver)) later →
        Early (some (Duration.ofSeconds 1).nanos) calling.now later.now →
        ¬ later.controller.Engages boundTask := by
  refine ⟨reachable_calling, (reachable_calling.delay_kept_iff rfl rfl (.head _) rfl
    (by decide) (by decide) ?_).mpr ⟨?_, fun _ _ _ _ isAllowed => isAllowed⟩⟩
  · rintro controller reply ⟨-, term, -, -, brought⟩
    exact absurd brought List.not_mem_nil
  · rintro ⟨term, running, -, marked | ⟨alarm, isSet, -⟩⟩
    · obtain rfl := Option.some.inj running
      exact absurd marked (by decide)
    · exact absurd isSet List.not_mem_nil

end TimedController

end VolumeAttacher
