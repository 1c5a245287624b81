import Mathlib.Logic.Relation
import VolumeAttacher.Proofs.Controller.Jobs
import VolumeAttacher.Proofs.Reconciliation.Failure

/-!
# Controllers in time

A controller with a clock. The names that are to be put into their queues later are kept as alarms,
which ring at their time or after it. Everything else may happen at any time.
-/

namespace VolumeAttacher

/-- A name that comes to its queue at a time, if the term is still the same. -/
structure Alarm where
  time : Nat
  number : Nat
  task : Task
  deriving DecidableEq

/-- A controller, the time, and the alarms that are set. -/
structure TimedController where
  controller : Controller
  now : Nat
  alarms : List Alarm

namespace TimedController

/-- The alarms of the names that an event delays. -/
def alarmsFor (timed : TimedController) (delayed : List Delayed) : List Alarm :=
  timed.controller.term.toList.flatMap fun term =>
    delayed.map fun delay => ⟨timed.now + delay.nanos, term.number, delay.task⟩

theorem mem_alarmsFor {timed : TimedController} {delayed : List Delayed} {alarm : Alarm} :
    alarm ∈ timed.alarmsFor delayed ↔
      ∃ term, timed.controller.term = some term ∧
        ∃ delay ∈ delayed, ⟨timed.now + delay.nanos, term.number, delay.task⟩ = alarm := by
  simp only [alarmsFor, List.mem_flatMap, Option.mem_toList, List.mem_map]

/-- The controller after an event. -/
def after (timed : TimedController) (event : ControllerEvent) : TimedController :=
  let (controller, delayed) := timed.controller.step event
  { timed with controller, alarms := timed.alarmsFor delayed ++ timed.alarms }

/-- A step in time, whose events are among those that are allowed. -/
inductive Step (allowed : Controller → ControllerEvent → Prop) :
    TimedController → TimedController → Prop
  | event {timed : TimedController} (event : ControllerEvent)
      (isAllowed : allowed timed.controller event)
      (noAlarm : ∀ number task, event ≠ .due number task) :
    Step allowed timed (timed.after event)
  | ring {timed : TimedController} (alarm : Alarm)
      (isSet : alarm ∈ timed.alarms)
      (isDue : alarm.time ≤ timed.now) :
    Step allowed timed
      { timed.after (.due alarm.number alarm.task) with alarms := timed.alarms.erase alarm }
  | wait {timed : TimedController} (moment : Nat) (later : timed.now ≤ moment) :
    Step allowed timed { timed with now := moment }

/-- What may come of a controller when the allowed events happen. -/
def Leads (allowed : Controller → ControllerEvent → Prop) :
    TimedController → TimedController → Prop :=
  Relation.ReflTransGen (Step allowed)

/-- Every event may happen. -/
def Anything : Controller → ControllerEvent → Prop := fun _ _ => True

/-- What may come of a controller before its first term. -/
def Reachable (start : Controller) (timed : TimedController) : Prop :=
  Leads Anything ⟨start, 0, []⟩ timed

/-- Terms are in order, jobs end with the fault of a driver call that failed, and no alarm is set
for a later term. -/
structure Orderly (timed : TimedController) : Prop where
  sound : timed.controller.Sound
  attended : ∀ term, timed.controller.term = some term → term.Attended
  surfaces : ∀ job ∈ timed.controller.jobs, ∃ failed,
    job.rest.Follows Reconciliation.failing Reconciliation.Surfaces failed
  number : ∀ term, timed.controller.term = some term → term.number < timed.controller.terms
  alarms : ∀ alarm ∈ timed.alarms, alarm.number < timed.controller.terms

namespace Orderly

variable {timed : TimedController}

/-- A job that comes to be there follows the rules of driver calls. -/
theorem follows_of_origin
    {event : ControllerEvent}
    {job : Job}
    (orderly : timed.Orderly)
    (origin : timed.controller.Origin event job) :
    ∃ failed, job.rest.Follows Reconciliation.failing Reconciliation.Surfaces failed := by
  cases origin with
  | kept present => exact orderly.surfaces job present
  | taken takes fresh same =>
    rw [same]
    exact ⟨none, Reconciliation.ofTask_failing _ _ _⟩
  | answered request resume reply present answers same =>
    obtain ⟨failed, follows⟩ := orderly.surfaces _ present
    rw [same]
    exact ⟨_, follows.2 (reply request)⟩

/-- A controller stays in order whatever happens to it. -/
theorem after (orderly : timed.Orderly) (event : ControllerEvent) :
    (timed.after event).Orderly where
  sound := orderly.sound.step event
  attended := Controller.term_step timed.controller.attended_freshTerm
    (fun _ _ _ passage attended => attended.passage passage) orderly.attended
  surfaces job present := orderly.follows_of_origin (orderly.sound.origin present)
  number next present := by
    have later := timed.controller.terms_step event
    cases running : timed.controller.term with
    | none =>
      obtain ⟨-, ⟨-, started⟩ | ended⟩ := timed.controller.step_idle event running
      · simp only [TimedController.after, started] at present ⊢
        obtain rfl := Option.some.inj present
        exact Nat.lt_succ_self _
      · simp [TimedController.after, ended] at present
    | some term =>
      have early := orderly.number term running
      obtain ⟨-, ended⟩ | ⟨other, goesOn, passage⟩ := Controller.passage_step event running
      · simp [TimedController.after, ended] at present
      · obtain rfl := Option.some.inj (goesOn.symm.trans present)
        rw [passage.number_eq]
        exact Nat.lt_of_lt_of_le early later
  alarms alarm isSet := by
    have later := timed.controller.terms_step event
    obtain fresh | isSet := List.mem_append.mp isSet
    · obtain ⟨term, running, -, -, rfl⟩ := mem_alarmsFor.mp fresh
      exact Nat.lt_of_lt_of_le (orderly.number term running) later
    · exact Nat.lt_of_lt_of_le (orderly.alarms alarm isSet) later

/-- The term after the answer to the request of a job. -/
theorem term_after_answer
    {term : Term}
    {task : Task}
    {request : Request}
    {resume : request.Answer → Dialogue Request Request.Answer (Except Fault Unit)}
    (orderly : timed.Orderly)
    (reply : (request : Request) → request.Answer)
    (running : timed.controller.term = some term)
    (waits : ⟨task, .ask request resume⟩ ∈ term.jobs) :
    (timed.after (.answer task reply)).controller.term =
      some (term.proceed ⟨task, resume (reply request)⟩).1 := by
  simp only [TimedController.after, (orderly.sound term running).step_answer reply running waits]

/-- A step keeps a controller in order. -/
theorem step
    {allowed : Controller → ControllerEvent → Prop}
    {next : TimedController}
    (orderly : timed.Orderly)
    (step : Step allowed timed next) :
    next.Orderly := by
  cases step with
  | event event => exact orderly.after event
  | ring alarm isSet isDue =>
    have rung := orderly.after (.due alarm.number alarm.task)
    refine ⟨rung.sound, rung.attended, rung.surfaces, rung.number, ?_⟩
    intro other isSet
    exact rung.alarms other (List.mem_append_right _ (List.mem_of_mem_erase isSet))
  | wait moment later => exact ⟨orderly.sound, orderly.attended, orderly.surfaces, orderly.number,
      orderly.alarms⟩

/-- What comes of a controller in order is in order. -/
theorem leads
    {allowed : Controller → ControllerEvent → Prop}
    {later : TimedController}
    (orderly : timed.Orderly)
    (leads : Leads allowed timed later) :
    later.Orderly := by
  induction leads with
  | refl => exact orderly
  | tail _ step ih => exact ih.step step

end Orderly

/-- A controller is in order from its first term on. -/
theorem Reachable.orderly
    {start : Controller}
    {timed : TimedController}
    (idle : start.term = none)
    (reachable : Reachable start timed) :
    timed.Orderly :=
  Orderly.leads ⟨by simp [Controller.Sound, idle], by simp [idle],
    by simp [Controller.jobs_of_idle idle], by simp [idle], by simp⟩ reachable

/-- Time does not go back. -/
theorem Leads.now_le
    {allowed : Controller → ControllerEvent → Prop}
    {timed later : TimedController}
    (leads : Leads allowed timed later) :
    timed.now ≤ later.now := by
  induction leads with
  | refl => exact Nat.le_refl _
  | tail _ step ih =>
    cases step with
    | event | ring => exact ih
    | wait moment later => exact Nat.le_trans ih later

end TimedController

end VolumeAttacher
