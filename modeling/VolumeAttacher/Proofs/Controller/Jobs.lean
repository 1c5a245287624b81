import Mathlib.Data.List.Induction
import Mathlib.Tactic.SplitIfs
import VolumeAttacher.Proofs.Controller.Passage
import VolumeAttacher.Proofs.WorkQueue

/-!
# Jobs of a term

A term stays sound: nobody works on a name that waits, and no two jobs are about the same name. So
the jobs change in two ways only: a worker takes a name that nobody works on, and the job whose
request was answered goes on or is over.
-/

namespace VolumeAttacher

attribute [ext] Task

/-- What becomes of a key only changes what its queue remembers of failures. -/
theorem Routing.settle_eq (queue : WorkQueue String) (key : String) (result : Except Fault Unit) :
    ∃ failures, (Routing.settle queue key result).1 = { queue with failures } := by
  unfold Routing.settle
  split
  · exact ⟨_, rfl⟩
  · split <;> exact ⟨_, rfl⟩

namespace Term

variable {term next : Term} {task : Task}

/-- Every name that is worked on is with one job, which waits for an answer. -/
structure Sound (term : Term) : Prop where
  queues : ∀ subject, (term.queue subject).Sound
  taken : ∀ job ∈ term.jobs, job.task.name ∈ (term.queue job.task.subject).processing
  asking : ∀ job ∈ term.jobs, ∃ request resume, job.rest = .ask request resume
  single : (term.jobs.map Job.task).Nodup

namespace Sound

/-- A term is sound with another sound queue that does not take names from workers. -/
theorem withQueue
    {subject : Subject}
    {queue : WorkQueue String}
    (sound : term.Sound)
    (queueSound : queue.Sound)
    (taken : ∀ job ∈ term.jobs, job.task.subject = subject →
      job.task.name ∈ queue.processing) :
    (term.withQueue subject queue).Sound := by
  refine ⟨?_, ?_, ?_, ?_⟩
  · intro other
    by_cases same : other = subject
    · subst same
      rw [queue_withQueue_self]
      exact queueSound
    · rw [queue_withQueue_of_ne _ _ same]
      exact sound.queues other
  · intro job present
    rw [jobs_withQueue] at present
    by_cases same : job.task.subject = subject
    · subst same
      rw [queue_withQueue_self]
      exact taken job present rfl
    · rw [queue_withQueue_of_ne _ _ same]
      exact sound.taken job present
  · rw [jobs_withQueue]
    exact sound.asking
  · rw [jobs_withQueue]
    exact sound.single

theorem add (sound : term.Sound) (task : Task) : (term.add task).Sound := by
  apply sound.withQueue ((sound.queues task.subject).add task.name)
  intro job present same
  have taken := sound.taken job present
  rw [same] at taken
  simpa using taken

theorem addAll (sound : term.Sound) (tasks : List Task) : (term.addAll tasks).Sound :=
  addAll_induction Sound term tasks sound fun _ task _ sound => sound.add task

/-- A sound term stays so when fewer jobs are left. -/
theorem ofJobs
    {jobs : List Job}
    (sound : term.Sound)
    (fewer : jobs.Sublist term.jobs) :
    Sound { term with jobs } where
  queues subject := sound.queues subject
  taken job present := sound.taken job (fewer.subset present)
  asking job present := sound.asking job (fewer.subset present)
  single := sound.single.sublist (fewer.map _)

/-- A job that is over makes room for its name. -/
theorem settle
    {result : Except Fault Unit}
    (sound : term.Sound)
    (taken : task.name ∈ (term.queue task.subject).processing) :
    (term.settle task result).1.Sound := by
  obtain ⟨failures, settled⟩ :=
    Routing.settle_eq (term.queue task.subject) task.name result
  have queue := sound.queues task.subject
  have remembering := queue.remember failures
  have fewer : (term.others task).Sublist term.jobs := List.filter_sublist
  rw [settle_eq, settled]
  apply (sound.ofJobs fewer).withQueue (remembering.done taken)
  intro job present same
  obtain ⟨present, differs⟩ := mem_others.mp present
  have named : job.task.name ≠ task.name := fun equal => differs (Task.ext same equal)
  rw [WorkQueue.processing_done, List.mem_filter]
  exact ⟨same ▸ sound.taken job present, by simpa using named⟩

/-- A job goes on if its name is being worked on. -/
theorem proceed
    {job : Job}
    (sound : term.Sound)
    (taken : job.task.name ∈ (term.queue job.task.subject).processing) :
    (term.proceed job).1.Sound := by
  cases rest : job.rest with
  | done result =>
    rw [proceed_done rest]
    exact sound.settle taken
  | ask request resume =>
    have fewer : (term.others job.task).Sublist term.jobs := List.filter_sublist
    have left := sound.ofJobs fewer
    rw [proceed_ask rest]
    refine ⟨left.queues, ?_, ?_, ?_⟩
    · intro other present
      obtain rfl | present := List.mem_cons.mp present
      · exact taken
      · exact left.taken other present
    · intro other present
      obtain rfl | present := List.mem_cons.mp present
      · exact ⟨request, resume, rest⟩
      · exact left.asking other present
    · refine List.nodup_cons.mpr ⟨?_, left.single⟩
      simp [others]

/-- The name that a worker takes is with no other job. -/
theorem task_ne_of_get
    {subject : Subject}
    {name : String}
    {queue : WorkQueue String}
    (sound : term.Sound)
    (handed : (term.queue subject).get = (queue, .key name)) :
    ∀ job ∈ term.jobs, job.task ≠ ⟨subject, name⟩ := by
  intro job present same
  obtain ⟨-, rest, waiting, -⟩ := WorkQueue.eq_of_get handed
  have taken := sound.taken job present
  rw [same] at taken
  exact (sound.queues subject).free name (by simp [waiting]) taken

/-- There is one job of a task. -/
theorem eq_of_task_eq
    {first second : Job}
    (sound : term.Sound)
    (one : first ∈ term.jobs)
    (two : second ∈ term.jobs)
    (same : first.task = second.task) :
    first = second :=
  List.inj_on_of_nodup_map sound.single one two same

/-- A job is found by its task. -/
theorem find?_eq {job : Job} (sound : term.Sound) (present : job ∈ term.jobs) :
    term.jobs.find? (fun other => other.task = job.task) = some job := by
  cases found : term.jobs.find? fun other => other.task = job.task with
  | none => simpa using List.find?_eq_none.mp found job present
  | some other =>
    have about : other.task = job.task := by simpa using List.find?_some found
    exact congrArg some (sound.eq_of_task_eq (List.mem_of_find?_eq_some found) present about)

/-- A term stays sound whatever happens to it. -/
theorem passage
    {controller : Controller}
    {event : ControllerEvent}
    {delayed : List Delayed}
    (sound : term.Sound)
    (passage : controller.Passage term event next delayed) :
    next.Sound := by
  cases passage with
  | adds => exact sound.addAll _
  | begins waits ready =>
    have queued := sound.addAll (controller.brought term .ready)
    exact ⟨queued.queues, queued.taken, queued.asking, queued.single⟩
  | @takes subject queue name works handed free =>
    have unseen := sound.task_ne_of_get handed
    obtain ⟨-, rest, -, shape⟩ := WorkQueue.eq_of_get handed
    refine (sound.withQueue ((sound.queues subject).get handed) ?_).proceed
      (by simp [Controller.job, shape])
    intro job present same
    have differs : job.task.name ≠ name := fun equal => unseen job present (Task.ext same equal)
    have taken := sound.taken job present
    rw [same] at taken
    simpa [shape, differs] using taken
  | answers request resume waits =>
    have taken := sound.taken _ waits
    exact sound.proceed taken
  | ignores nobody => exact sound
  | cancels =>
    refine ⟨?_, ?_, sound.asking, sound.single⟩
    · intro subject
      cases subject with
      | attachment => exact (sound.queues .attachment).shutDown
      | volume => exact (sound.queues .volume).shutDown
    · intro job present
      have taken := sound.taken job present
      generalize job.task.subject = subject at taken
      cases subject <;> exact taken

/-- The answer to the request of a job is for that job. -/
theorem step_answer
    {controller : Controller}
    {request : Request}
    {resume : request.Answer → Dialogue Request Request.Answer (Except Fault Unit)}
    (sound : term.Sound)
    (reply : (request : Request) → request.Answer)
    (running : controller.term = some term)
    (waits : ⟨task, .ask request resume⟩ ∈ term.jobs) :
    controller.step (.answer task reply) =
      ({ controller with term := some (term.proceed ⟨task, resume (reply request)⟩).1 },
        (term.proceed ⟨task, resume (reply request)⟩).2) := by
  rw [Controller.step_answer, Controller.inTerm_of_running _ running]
  unfold Controller.answer
  rw [sound.find?_eq waits]

end Sound

/-- Every name that is worked on is with a job, and the queues are open until the term is to
stop. -/
structure Attended (term : Term) : Prop where
  worked : ∀ task : Task, task.name ∈ (term.queue task.subject).processing →
    ∃ job ∈ term.jobs, job.task = task
  opened : term.stage ≠ .stopping → ∀ subject, (term.queue subject).closed = false

namespace Attended

theorem add (attended : term.Attended) (task : Task) : (term.add task).Attended := by
  constructor
  · intro other taken
    unfold Term.add at taken
    rw [view_withQueue WorkQueue.processing (WorkQueue.processing_add _ _)] at taken
    simpa [Term.add] using attended.worked other taken
  · intro goesOn subject
    unfold Term.add
    rw [view_withQueue WorkQueue.closed (WorkQueue.closed_add _ _)]
    exact attended.opened (by simpa [Term.add] using goesOn) subject

theorem addAll (attended : term.Attended) (tasks : List Task) : (term.addAll tasks).Attended :=
  addAll_induction Attended term tasks attended fun _ task _ attended => attended.add task

/-- A job goes on if every other name that is worked on is with a job. -/
theorem proceed
    {job : Job}
    (worked : ∀ task : Task, task ≠ job.task →
      task.name ∈ (term.queue task.subject).processing → ∃ other ∈ term.jobs, other.task = task)
    (opened : term.stage ≠ .stopping → ∀ subject, (term.queue subject).closed = false) :
    (term.proceed job).1.Attended := by
  cases rest : job.rest with
  | done result =>
    obtain ⟨failures, settled⟩ :=
      Routing.settle_eq (term.queue job.task.subject) job.task.name result
    rw [proceed_done rest, Term.settle_eq, settled]
    constructor
    · intro other taken
      have other_ne : other ≠ job.task ∧ other.name ∈ (term.queue other.subject).processing := by
        by_cases same : other.subject = job.task.subject
        · rw [same, queue_withQueue_self, WorkQueue.processing_done, List.mem_filter] at taken
          refine ⟨?_, same ▸ taken.1⟩
          intro equal
          simp [equal] at taken
        · rw [queue_withQueue_of_ne _ _ same] at taken
          exact ⟨fun equal => same (equal ▸ rfl), taken⟩
      obtain ⟨differs, taken⟩ := other_ne
      obtain ⟨found, present, rfl⟩ := worked other differs taken
      exact ⟨found, by simp [mem_others, present, differs], rfl⟩
    · intro goesOn subject
      refine (view_withQueue WorkQueue.closed ?_ subject).trans
        (opened (by simpa using goesOn) subject)
      rw [WorkQueue.closed_done]
      rfl
  | ask request resume =>
    rw [proceed_ask rest]
    refine ⟨?_, opened⟩
    intro other taken
    by_cases same : other = job.task
    · exact ⟨job, List.mem_cons_self, same.symm⟩
    · obtain ⟨found, present, rfl⟩ := worked other same taken
      exact ⟨found, List.mem_cons_of_mem _ (mem_others.mpr ⟨present, same⟩), rfl⟩

/-- A term stays attended whatever happens to it. -/
theorem passage
    {controller : Controller}
    {event : ControllerEvent}
    {delayed : List Delayed}
    (attended : term.Attended)
    (passage : controller.Passage term event next delayed) :
    next.Attended := by
  cases passage with
  | adds => exact attended.addAll _
  | begins waits ready =>
    have queued := attended.addAll (controller.brought term .ready)
    exact ⟨queued.worked, fun _ => queued.opened (by simp [waits])⟩
  | @takes subject queue name works handed free =>
    obtain ⟨-, rest, -, shape⟩ := WorkQueue.eq_of_get handed
    refine proceed ?_ ?_
    · intro task differs taken
      rw [jobs_withQueue]
      by_cases same : task.subject = subject
      · subst same
        have named : task.name ≠ name := fun equal => differs (Task.ext rfl equal)
        rw [queue_withQueue_self, shape] at taken
        exact attended.worked task (by simpa [named] using taken)
      · rw [queue_withQueue_of_ne _ _ same] at taken
        exact attended.worked task taken
    · intro goesOn other
      refine (view_withQueue WorkQueue.closed ?_ other).trans
        (attended.opened (by simpa using goesOn) other)
      rw [shape]
  | answers request resume waits =>
    exact proceed (fun task _ => attended.worked task) attended.opened
  | ignores nobody => exact attended
  | cancels =>
    refine ⟨fun task taken => attended.worked task ?_, fun goesOn => absurd rfl goesOn⟩
    obtain ⟨subject, name⟩ := task
    cases subject <;> exact taken

end Attended

end Term

namespace Controller

variable {controller : Controller} {term : Term}

/-- The present jobs. -/
def jobs (controller : Controller) : List Job :=
  (controller.term.map Term.jobs).getD []

theorem jobs_of_running (running : controller.term = some term) : controller.jobs = term.jobs := by
  simp [jobs, running]

theorem jobs_of_idle (idle : controller.term = none) : controller.jobs = [] := by
  simp [jobs, idle]

/-- The present term, if there is one, is sound. -/
def Sound (controller : Controller) : Prop :=
  ∀ term, controller.term = some term → term.Sound

theorem sound_freshTerm (controller : Controller) : controller.freshTerm.Sound where
  queues subject := by cases subject <;> exact .empty _ _
  taken := nofun
  asking := nofun
  single := List.nodup_nil

/-- A controller stays sound whatever happens to it. -/
theorem Sound.step (sound : controller.Sound) (event : ControllerEvent) :
    (controller.step event).1.Sound :=
  term_step controller.sound_freshTerm (fun _ _ _ passage sound => sound.passage passage) sound

theorem attended_freshTerm (controller : Controller) : controller.freshTerm.Attended where
  worked task taken := by
    obtain ⟨subject, name⟩ := task
    cases subject <;> exact absurd taken List.not_mem_nil
  opened _ subject := by cases subject <;> rfl

/-- How a job comes to be there after an event: it was there, a worker just took its name, or its
request was just answered. -/
inductive Origin (controller : Controller) (event : ControllerEvent) (job : Job) : Prop
  | kept
      (present : job ∈ controller.jobs)
      (waits : ∀ reply, event ≠ .answer job.task reply)
  | taken
      (takes : event = .take job.task.subject)
      (fresh : ∀ other ∈ controller.jobs, other.task ≠ job.task)
      (same : job = controller.job job.task)
  | answered
      (request : Request)
      (resume : request.Answer → Dialogue Request Request.Answer (Except Fault Unit))
      (reply : (request : Request) → request.Answer)
      (present : ⟨job.task, .ask request resume⟩ ∈ controller.jobs)
      (answers : event = .answer job.task reply)
      (same : job.rest = resume (reply request))

/-- Every job of a term that went on has its origin before that. -/
theorem Passage.origin
    {event : ControllerEvent}
    {next : Term}
    {delayed : List Delayed}
    {job : Job}
    (passage : controller.Passage term event next delayed)
    (sound : term.Sound)
    (running : controller.term = some term)
    (present : job ∈ next.jobs) :
    Origin controller event job := by
  have jobs := jobs_of_running running
  cases passage with
  | adds noAnswer =>
    rw [Term.jobs_addAll] at present
    exact .kept (jobs ▸ present) (noAnswer job.task)
  | begins waits ready =>
    exact .kept (jobs ▸ Term.jobs_addAll term _ ▸ present) nofun
  | takes queue name works handed free =>
    obtain rfl | kept := Term.mem_proceed_jobs present
    · exact .taken rfl (jobs ▸ sound.task_ne_of_get handed) rfl
    · have kept := (Term.mem_others.mp kept).1
      rw [Term.jobs_withQueue] at kept
      exact .kept (jobs ▸ kept) nofun
  | @answers task reply request resume waits =>
    obtain rfl | kept := Term.mem_proceed_jobs present
    · exact .answered request resume reply (jobs ▸ waits) rfl rfl
    · obtain ⟨kept, differs⟩ := Term.mem_others.mp kept
      refine .kept (jobs ▸ kept) ?_
      intro other answers
      exact differs (ControllerEvent.answer.inj answers).1.symm
  | @ignores task reply nobody =>
    refine .kept (jobs ▸ present) ?_
    intro other answers
    obtain rfl : task = job.task := (ControllerEvent.answer.inj answers).1
    obtain ⟨request, resume, asks⟩ := sound.asking job present
    refine nobody request resume ((sound.find?_eq present).trans ?_)
    rw [← asks]
  | cancels => exact .kept (jobs ▸ present) nofun

/-- Every job after an event has its origin before it. -/
theorem Sound.origin
    {event : ControllerEvent}
    {job : Job}
    (sound : controller.Sound)
    (present : job ∈ (controller.step event).1.jobs) :
    Origin controller event job := by
  cases running : controller.term with
  | none =>
    obtain ⟨-, ⟨-, started⟩ | ended⟩ := controller.step_idle event running
    · simp [started, jobs, freshTerm] at present
    · simp [jobs_of_idle ended] at present
  | some term =>
    obtain ⟨-, ended⟩ | ⟨next, goesOn, passage⟩ := passage_step event running
    · simp [ended, jobs] at present
    · rw [jobs_of_running goesOn] at present
      exact passage.origin (sound term running) running present

/-! ## Runs -/

variable {start : Controller} {events : List ControllerEvent}

/-- A controller after events. -/
def run (controller : Controller) (events : List ControllerEvent) : Controller :=
  events.foldl (fun controller event => (controller.step event).1) controller

theorem run_concat (controller : Controller) (events : List ControllerEvent)
    (event : ControllerEvent) :
    controller.run (events ++ [event]) = ((controller.run events).step event).1 := by
  simp [run]

theorem attacher_run (controller : Controller) (events : List ControllerEvent) :
    (controller.run events).attacher = controller.attacher := by
  induction events using List.reverseRecOn with
  | nil => rfl
  | append_singleton events event inductionHypothesis =>
    rw [run_concat, attacher_step, inductionHypothesis]

theorem Sound.run (sound : start.Sound) : (start.run events).Sound := by
  induction events using List.reverseRecOn with
  | nil => exact sound
  | append_singleton events event inductionHypothesis =>
    rw [run_concat]
    exact inductionHypothesis.step event

end Controller

end VolumeAttacher
