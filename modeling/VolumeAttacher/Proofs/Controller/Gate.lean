import VolumeAttacher.Proofs.Controller.Custody
import VolumeAttacher.Proofs.Election.Course

/-!
# A controller behind an election

The procedure of a candidate is a controller. It begins a term when it is invoked, is told to stop,
and comes to its end once it has stopped, or is dropped. So nothing is asked of the cluster or of
the driver but in a reign. One assumption is made about the runtime, `Controller.abort`: a task whose
procedure is dropped does not outlive it.
-/

namespace VolumeAttacher

/-- A controller that is dropped. It is taken for granted that a task ends where it waits once the
set of tasks that it belongs to is dropped: no task of the term goes on with an answer or takes
another name. -/
def Controller.abort (controller : Controller) : Controller := { controller with term := none }

/-- What a candidate does with the controller that is its procedure. -/
def Controller.control (controller : Controller) : ElectionAction → Controller
  | .startWork => (controller.step .start).1
  | .cancelWork => (controller.step .cancel).1
  | .dropWork => controller.abort
  | .publish _ | .ask _ | .abandonCall | .finish | .breakDown => controller

/-- A candidate and the controller that is its procedure. -/
structure Gate where
  course : Course
  controller : Controller

namespace Gate

/-- The gate after an event of the election. -/
def after (candidate : Candidate) (now : Moment) (event : ElectionEvent) (gate : Gate) : Gate where
  course := gate.course.after candidate now event
  controller := (gate.course.candidacy.step candidate now event).2.foldl Controller.control
    gate.controller

/-- One step of a gate. -/
inductive Step (candidate : Candidate) (gate : Gate) : Gate → Prop
  /-- Something happens to the candidate. -/
  | elects (now : Moment) (event : ElectionEvent)
      (admitted : gate.course.Admits event)
      (goesOn : event ≠ .workEnded) :
    Step candidate gate (gate.after candidate now event)
  /-- The controller comes to its end. -/
  | ends (now : Moment)
      (working : gate.course.isWorking = true)
      (stopped : (gate.controller.step .ended).1.term = none) :
    Step candidate gate
      (after candidate now .workEnded { gate with controller := (gate.controller.step .ended).1 })
  /-- Something happens to the controller that is not up to the candidate. -/
  | works (event : ControllerEvent)
      (ungoverned : event ≠ .start ∧ event ≠ .cancel ∧ event ≠ .ended) :
    Step candidate gate { gate with controller := (gate.controller.step event).1 }

/-- What comes of a controller without a term and a candidate that did not start. -/
def Reachable (candidate : Candidate) (gate : Gate) : Prop :=
  ∃ controller, controller.term = none ∧
    Relation.ReflTransGen (Step candidate) ⟨.opening, controller⟩ gate

variable {candidate : Candidate} {course : Course} {controller : Controller} {gate next : Gate}

/-- A controller has a term only while it is invoked. -/
def IsBounded (course : Course) (controller : Controller) : Prop :=
  course.isWorking = false → controller.term = none

theorem isBounded_control (bounded : IsBounded course controller) (action : ElectionAction) :
    IsBounded (course.act action) (controller.control action) := by
  cases action with
  | publish | ask | abandonCall | finish | breakDown => exact bounded
  | startWork => exact nofun
  | cancelWork =>
    intro idle
    have none := bounded idle
    simp [Controller.control, Controller.step, Controller.inTerm, none]
  | dropWork => exact fun _ => rfl

theorem isBounded_foldl (bounded : IsBounded course controller) (actions : List ElectionAction) :
    IsBounded (actions.foldl Course.act course) (actions.foldl Controller.control controller) := by
  induction actions generalizing course controller with
  | nil => exact bounded
  | cons action rest inductionHypothesis =>
    exact inductionHypothesis (isBounded_control bounded action)

theorem Step.isBounded
    (step : Step candidate gate next)
    (bounded : IsBounded gate.course gate.controller) :
    IsBounded next.course next.controller := by
  cases step with
  | elects now event admitted goesOn =>
    refine isBounded_foldl ?_ _
    cases event with
    | workEnded => exact absurd rfl goesOn
    | start | reply | tick | shutDown => exact bounded
  | ends now working stopped => exact isBounded_foldl (fun _ => stopped) _
  | works event ungoverned =>
    intro idle
    obtain ⟨-, ⟨start, -⟩ | none⟩ := gate.controller.step_idle event (bounded idle)
    · exact absurd start ungoverned.1
    · exact none

/-- The candidate of a gate goes through a course. -/
theorem Step.reachable
    (step : Step candidate gate next)
    (reachable : Course.Reachable candidate gate.course) :
    Course.Reachable candidate next.course := by
  cases step with
  | elects now event admitted goesOn => exact reachable.tail ⟨now, event, admitted, rfl⟩
  | ends now working stopped => exact reachable.tail ⟨now, .workEnded, working, rfl⟩
  | works event ungoverned => exact reachable

theorem Reachable.sound (reachable : Reachable candidate gate) :
    Course.Reachable candidate gate.course ∧ IsBounded gate.course gate.controller := by
  obtain ⟨controller, idle, run⟩ := reachable
  induction run with
  | refl => exact ⟨.refl, fun _ => idle⟩
  | tail _ step inductionHypothesis =>
    exact ⟨step.reachable inductionHypothesis.1, step.isBounded inductionHypothesis.2⟩

/-- The controller goes on by itself. -/
def run (gate : Gate) (events : List ControllerEvent) : Gate :=
  { gate with
      controller := events.foldl (fun controller event => (controller.step event).1)
        gate.controller }

theorem Reachable.run
    {events : List ControllerEvent}
    (reachable : Reachable candidate gate)
    (ungoverned : ∀ event ∈ events, event ≠ .start ∧ event ≠ .cancel ∧ event ≠ .ended) :
    Reachable candidate (gate.run events) := by
  induction events generalizing gate with
  | nil => exact reachable
  | cons event rest inductionHypothesis =>
    obtain ⟨first, ungoverned⟩ := List.forall_mem_cons.mp ungoverned
    obtain ⟨controller, idle, steps⟩ := reachable
    exact inductionHypothesis ⟨controller, idle, steps.tail (.works event first)⟩ ungoverned

/-- A candidate with the standard timing. -/
def leader : Candidate := ⟨"a", .standard⟩

/-- The candidate finds no record, writes its own, and invokes the controller. -/
def invoked : Gate :=
  [.start, .reply (.got (.ok none)), .reply (.written (.ok ()))].foldl
    (fun gate event => gate.after leader default event) ⟨.opening, History.hostPathController⟩

/-- The driver is called for the attachment. -/
def calling : Gate := invoked.run TimedController.opening.tail

theorem reachable_calling : Reachable leader calling := by
  have started : Reachable leader _ :=
    ⟨History.hostPathController, rfl, .single (.elects default .start trivial nofun)⟩
  obtain ⟨controller, idle, steps⟩ := started
  have asked := steps.tail (.elects default (.reply (.got (.ok none))) rfl nofun)
  have written := asked.tail (.elects default (.reply (.written (.ok ()))) rfl nofun)
  have invoked : Reachable leader invoked := ⟨controller, idle, written⟩
  exact invoked.run (by simp [TimedController.opening])

end Gate

end VolumeAttacher
