import VolumeAttacher.Controller

/-!
# What an event does to a term

Every event of a controller either leaves a term that goes on, or begins or ends one. What becomes
of a term that goes on is said here once: names are added to its queues, a worker takes a name, a
job is answered, or the term is told to stop.
-/

namespace VolumeAttacher

namespace Term

variable {term : Term}

/-- The jobs that are not about a task. -/
def others (term : Term) (task : Task) : List Job :=
  term.jobs.filter fun job => job.task ≠ task

theorem mem_others {task : Task} {job : Job} :
    job ∈ term.others task ↔ job ∈ term.jobs ∧ job.task ≠ task := by
  simp [others]

@[simp] theorem queue_withQueue_self (term : Term) (subject : Subject)
    (queue : WorkQueue String) :
    (term.withQueue subject queue).queue subject = queue := by
  cases subject <;> rfl

theorem queue_withQueue_of_ne (term : Term) {subject other : Subject}
    (queue : WorkQueue String) (differ : other ≠ subject) :
    (term.withQueue subject queue).queue other = term.queue other := by
  cases subject <;> cases other <;> first | rfl | exact absurd rfl differ

/-- What a new queue has in common with the one before it, every queue has in common with the one
before it. -/
theorem view_withQueue
    {α : Type}
    {subject : Subject}
    {queue : WorkQueue String}
    (view : WorkQueue String → α)
    (common : view queue = view (term.queue subject))
    (other : Subject) :
    view ((term.withQueue subject queue).queue other) = view (term.queue other) := by
  by_cases same : other = subject
  · rw [same, queue_withQueue_self, common]
  · rw [queue_withQueue_of_ne _ _ same]

@[simp] theorem jobs_withQueue (term : Term) (subject : Subject) (queue : WorkQueue String) :
    (term.withQueue subject queue).jobs = term.jobs := by
  cases subject <;> rfl

@[simp] theorem stage_withQueue (term : Term) (subject : Subject) (queue : WorkQueue String) :
    (term.withQueue subject queue).stage = term.stage := by
  cases subject <;> rfl

@[simp] theorem number_withQueue (term : Term) (subject : Subject) (queue : WorkQueue String) :
    (term.withQueue subject queue).number = term.number := by
  cases subject <;> rfl

/-- What every addition of names keeps, a sequence of them keeps. -/
theorem addAll_induction
    (holds : Term → Prop)
    (term : Term)
    (tasks : List Task)
    (initially : holds term)
    (step : ∀ term, ∀ task ∈ tasks, holds term → holds (term.add task)) :
    holds (term.addAll tasks) := by
  induction tasks generalizing term with
  | nil => exact initially
  | cons task rest ih =>
    exact ih (term.add task) (step term task List.mem_cons_self initially)
      fun term other later => step term other (List.mem_cons_of_mem _ later)

@[simp] theorem jobs_addAll (term : Term) (tasks : List Task) :
    (term.addAll tasks).jobs = term.jobs :=
  addAll_induction (fun next => next.jobs = term.jobs) term tasks rfl
    fun next task _ same => by simpa [add] using same

@[simp] theorem number_addAll (term : Term) (tasks : List Task) :
    (term.addAll tasks).number = term.number :=
  addAll_induction (fun next => next.number = term.number) term tasks rfl
    fun next task _ same => by simpa [add] using same

@[simp] theorem stage_addAll (term : Term) (tasks : List Task) :
    (term.addAll tasks).stage = term.stage :=
  addAll_induction (fun next => next.stage = term.stage) term tasks rfl
    fun next task _ same => by simpa [add] using same

theorem settle_eq (term : Term) (task : Task) (result : Except Fault Unit) :
    term.settle task result =
      ({ term with jobs := term.others task }.withQueue task.subject
        ((Routing.settle (term.queue task.subject) task.name result).1.done task.name).1,
      ((Routing.settle (term.queue task.subject) task.name result).2.map (⟨task, ·⟩)).toList) :=
  rfl

theorem proceed_done {job : Job} {result : Except Fault Unit} (rest : job.rest = .done result) :
    term.proceed job = term.settle job.task result := by
  unfold proceed
  rw [rest]

theorem proceed_ask
    {job : Job}
    {request : Request}
    {resume : request.Answer → Dialogue Request Request.Answer (Except Fault Unit)}
    (rest : job.rest = .ask request resume) :
    term.proceed job = ({ term with jobs := job :: term.others job.task }, []) := by
  unfold proceed
  rw [rest]
  rfl

@[simp] theorem number_proceed (term : Term) (job : Job) :
    (term.proceed job).1.number = term.number := by
  cases rest : job.rest with
  | done result => simp [proceed_done rest, settle_eq]
  | ask request resume => simp [proceed_ask rest]

@[simp] theorem stage_proceed (term : Term) (job : Job) :
    (term.proceed job).1.stage = term.stage := by
  cases rest : job.rest with
  | done result => simp [proceed_done rest, settle_eq]
  | ask request resume => simp [proceed_ask rest]

/-- The jobs after a job went on or is over: the others, and the job as far as it waits. -/
theorem mem_proceed_jobs {job other : Job} (present : other ∈ (term.proceed job).1.jobs) :
    other = job ∨ other ∈ term.others job.task := by
  cases rest : job.rest with
  | done result =>
    rw [proceed_done rest, settle_eq, jobs_withQueue] at present
    exact .inr present
  | ask request resume =>
    rw [proceed_ask rest] at present
    exact List.mem_cons.mp present

end Term

namespace Controller

variable {controller : Controller} {term : Term}

/-- The job of a name that is taken. -/
def job (controller : Controller) (task : Task) : Job :=
  ⟨task, (Reconciliation.ofTask controller.attacher controller.caches task).run⟩

/-- The names that an event brings to the queues of a term. -/
def brought (controller : Controller) (term : Term) : ControllerEvent → List Task
  | .changed change => if controller.isFeeding then change.tasks controller.attacher else []
  | .ready =>
    if term.stage = .waiting && controller.isReady then
      Routing.ofCaches controller.attacher controller.caches
    else []
  | .resync =>
    if term.stage = .working then Routing.ofCaches controller.attacher controller.caches else []
  | .due number task => if term.number = number then [task] else []
  | .start | .take _ | .answer _ _ | .cancel | .ended => []

/-- What an event makes of a term that goes on, with the names that are to come to their queues
later. -/
inductive Passage (controller : Controller) (term : Term) :
    ControllerEvent → Term → List Delayed → Prop
  /-- Names are brought. -/
  | adds {event : ControllerEvent} (noAnswer : ∀ task reply, event ≠ .answer task reply) :
    Passage controller term event (term.addAll (controller.brought term event)) []
  /-- Names are brought, and the work begins. -/
  | begins (waits : term.stage = .waiting) (ready : controller.isReady = true) :
    Passage controller term .ready
      { term.addAll (controller.brought term .ready) with stage := .working } []
  /-- A worker takes a name. -/
  | takes {subject : Subject} (queue : WorkQueue String) (name : String)
      (works : term.stage = .working)
      (handed : (term.queue subject).get = (queue, .key name))
      (free : term.busy subject < controller.workers) :
    Passage controller term (.take subject)
      ((term.withQueue subject queue).proceed (controller.job ⟨subject, name⟩)).1
      ((term.withQueue subject queue).proceed (controller.job ⟨subject, name⟩)).2
  /-- The request of a job is answered. -/
  | answers {task : Task} {reply : (request : Request) → request.Answer} (request : Request)
      (resume : request.Answer → Dialogue Request Request.Answer (Except Fault Unit))
      (waits : ⟨task, .ask request resume⟩ ∈ term.jobs) :
    Passage controller term (.answer task reply)
      (term.proceed ⟨task, resume (reply request)⟩).1
      (term.proceed ⟨task, resume (reply request)⟩).2
  /-- No job waits for the answer. -/
  | ignores {task : Task} {reply : (request : Request) → request.Answer}
      (nobody : ∀ request resume,
        term.jobs.find? (fun job => job.task = task) ≠ some ⟨task, .ask request resume⟩) :
    Passage controller term (.answer task reply) term []
  | cancels :
    Passage controller term .cancel
      { term with
          stage := .stopping
          attachments := term.attachments.shutDown
          volumes := term.volumes.shutDown } []

namespace Passage

variable {event : ControllerEvent} {next : Term} {delayed : List Delayed}

/-- Nothing becomes of a term to which nothing is brought. -/
theorem still
    (none : controller.brought term event = [])
    (noAnswer : ∀ task reply, event ≠ .answer task reply) :
    Passage controller term event term [] := by
  have passage : Passage controller term event (term.addAll []) [] := none ▸ .adds noAnswer
  exact passage

theorem number_eq (passage : Passage controller term event next delayed) :
    next.number = term.number := by
  cases passage <;> simp

/-- A term that is to stop never goes on. -/
theorem goesOn
    (passage : Passage controller term event next delayed)
    (goesOn : next.stage ≠ .stopping) :
    term.stage ≠ .stopping := by
  cases passage with
  | begins waits ready => simp [waits]
  | cancels => exact absurd rfl goesOn
  | adds | takes | answers | ignores => simpa using goesOn

/-- Only a term whose caches are ready begins to work. -/
theorem working
    (passage : Passage controller term event next delayed)
    (works : next.stage = .working) :
    term.stage = .working ∨ controller.isReady = true := by
  cases passage with
  | begins waits ready => exact .inr ready
  | cancels => cases works
  | adds | takes | answers | ignores => exact .inl (by simpa using works)

end Passage

/-- A change of the term changes nothing else of the controller. -/
theorem inTerm_fst (controller : Controller) (change : Term → Term × List Delayed) :
    (controller.inTerm change).1 =
      { controller with term := controller.term.map fun term => (change term).1 } := by
  obtain ⟨attacher, start, maximum, workers, isFeeding, caches, listed, terms, term⟩ := controller
  cases term <;> rfl

theorem inTerm_of_running
    (change : Term → Term × List Delayed)
    (running : controller.term = some term) :
    controller.inTerm change =
      ({ controller with term := some (change term).1 }, (change term).2) := by
  unfold Controller.inTerm
  rw [running]

/-- The work of a term begins once, if the caches are ready. -/
theorem passage_begin (controller : Controller) (term : Term) :
    Passage controller term .ready (controller.begin term) [] := by
  unfold Controller.begin
  split
  · next waits =>
    split
    · next ready =>
      have all : controller.brought term .ready =
          Routing.ofCaches controller.attacher controller.caches := by
        simp [brought, waits, ready]
      have passage := Passage.begins waits ready
      rw [all] at passage
      exact passage
    · next unready => exact .still (by simp [brought, unready]) nofun
  all_goals
    next other => exact .still (by simp [brought, other]) nofun

/-- A worker takes a name if there is one, and a worker for it. -/
theorem passage_take (controller : Controller) (term : Term) (subject : Subject) :
    Passage controller term (.take subject) (controller.take term subject).1
      (controller.take term subject).2 := by
  unfold Controller.take
  split
  · next queue name works handed =>
    split
    · exact .still rfl nofun
    · next free => exact .takes queue name works handed (Nat.lt_of_not_le free)
  · exact .still rfl nofun

/-- An answer is for the job of its task, if that waits for one. -/
theorem passage_answer
    (controller : Controller)
    (term : Term)
    (task : Task)
    (reply : (request : Request) → request.Answer) :
    Passage controller term (.answer task reply) (answer term task reply).1
      (answer term task reply).2 := by
  unfold answer
  split
  · next job request resume found =>
    obtain rfl : job = task := by simpa using List.find?_some found
    exact .answers request resume (List.mem_of_find?_eq_some found)
  · next other => exact .ignores fun request resume found => other task request resume found

section Step

variable (controller : Controller)

theorem step_ready :
    controller.step .ready = controller.inTerm fun term => (controller.begin term, []) := rfl

theorem step_resync :
    controller.step .resync = controller.inTerm fun term =>
      match term.stage with
      | .working => (controller.queueCaches term, [])
      | .waiting | .stopping => (term, []) := rfl

theorem step_due (number : Nat) (task : Task) :
    controller.step (.due number task) = controller.inTerm fun term =>
      if term.number = number then (term.add task, []) else (term, []) := rfl

theorem step_take (subject : Subject) :
    controller.step (.take subject) =
      controller.inTerm fun term => controller.take term subject := rfl

theorem step_answer (task : Task) (reply : (request : Request) → request.Answer) :
    controller.step (.answer task reply) =
      controller.inTerm fun term => answer term task reply := rfl

theorem step_cancel :
    controller.step .cancel = controller.inTerm fun term =>
      ({ term with
          stage := .stopping
          attachments := term.attachments.shutDown
          volumes := term.volumes.shutDown }, []) := rfl

end Step

/-- An event ends a term or makes a passage of it. -/
theorem passage_step (event : ControllerEvent) (running : controller.term = some term) :
    event = .ended ∧ controller.step event = ({ controller with term := none }, []) ∨
      ∃ next, (controller.step event).1.term = some next ∧
        Passage controller term event next (controller.step event).2 := by
  cases event with
  | start =>
    refine .inr ⟨term, ?_, ?_⟩ <;> simp only [Controller.step, running]
    exact .still rfl nofun
  | changed change =>
    refine .inr ⟨term.addAll (controller.brought term (.changed change)), ?_, .adds nofun⟩
    cases feeding : controller.isFeeding <;>
      simp [Controller.step, Controller.change, brought, feeding, running, Term.addAll]
  | ready =>
    rw [step_ready, inTerm_of_running _ running]
    exact .inr ⟨_, rfl, passage_begin controller term⟩
  | resync =>
    rw [step_resync, inTerm_of_running _ running]
    refine .inr ⟨_, rfl, ?_⟩
    dsimp only
    split
    · next works =>
      have passage : Passage controller term .resync _ [] := .adds nofun
      rw [brought, if_pos works] at passage
      exact passage
    all_goals
      next other => exact .still (by simp [brought, other]) nofun
  | due number task =>
    rw [step_due, inTerm_of_running _ running]
    refine .inr ⟨_, rfl, ?_⟩
    dsimp only
    split
    · next same =>
      have passage : Passage controller term (.due number task) _ [] := .adds nofun
      rw [brought, if_pos same] at passage
      exact passage
    · next differs => exact .still (by simp [brought, differs]) nofun
  | take subject =>
    rw [step_take, inTerm_of_running _ running]
    exact .inr ⟨_, rfl, passage_take controller term subject⟩
  | answer task reply =>
    rw [step_answer, inTerm_of_running _ running]
    exact .inr ⟨_, rfl, passage_answer controller term task reply⟩
  | cancel =>
    rw [step_cancel, inTerm_of_running _ running]
    exact .inr ⟨_, rfl, .cancels⟩
  | ended =>
    simp only [Controller.step]
    split
    · exact .inl ⟨trivial, rfl⟩
    · exact .inr ⟨term, running, .still rfl nofun⟩

/-- Without a term only a new one begins. -/
theorem step_idle (event : ControllerEvent) (idle : controller.term = none) :
    (controller.step event).2 = [] ∧
      (event = .start ∧ (controller.step event).1 =
          { controller with
              term := some controller.freshTerm
              terms := controller.terms + 1 } ∨
        (controller.step event).1.term = none) := by
  cases event with
  | start => simp [Controller.step, idle]
  | changed change =>
    simp only [Controller.step, Controller.change]
    split <;> simp [idle]
  | ended => simp [Controller.step, idle]
  | ready | resync | due | take | answer | cancel => simp [Controller.step, Controller.inTerm, idle]

/-- What holds of a term that begins and of whatever becomes of a term holds after every event. -/
theorem term_step
    {holds : Term → Prop}
    {event : ControllerEvent}
    (fresh : holds controller.freshTerm)
    (passes : ∀ term next delayed, Passage controller term event next delayed → holds term →
      holds next)
    (before : ∀ term, controller.term = some term → holds term) :
    ∀ next, (controller.step event).1.term = some next → holds next := by
  intro next present
  cases running : controller.term with
  | none =>
    obtain ⟨-, ⟨-, started⟩ | ended⟩ := controller.step_idle event running
    · rw [started] at present
      obtain rfl := Option.some.inj present
      exact fresh
    · simp [ended] at present
  | some term =>
    obtain ⟨-, ended⟩ | ⟨other, goesOn, passage⟩ := passage_step event running
    · simp [ended] at present
    · obtain rfl := Option.some.inj (goesOn.symm.trans present)
      exact passes term other _ passage (before term running)

/-- What an event changes: the term only, unless a term is counted or the caches change. -/
theorem step_fst (controller : Controller) (event : ControllerEvent) :
    (∃ term, (controller.step event).1 = { controller with term }) ∨
      event = .start ∧ (controller.step event).1 =
        { controller with
            term := some controller.freshTerm
            terms := controller.terms + 1 } ∨
      ∃ change listed term, event = .changed change ∧ (controller.step event).1 =
        { controller with caches := controller.caches.apply change, listed, term } := by
  cases event with
  | start =>
    simp only [Controller.step]
    split
    · exact .inl ⟨controller.term, rfl⟩
    · exact .inr (.inl ⟨trivial, rfl⟩)
  | changed change =>
    simp only [Controller.step, Controller.change]
    split
    · exact .inr (.inr ⟨change, _, _, rfl, rfl⟩)
    · exact .inr (.inr ⟨change, _, controller.term, rfl, rfl⟩)
  | ended =>
    simp only [Controller.step]
    split
    · exact .inl ⟨none, rfl⟩
    · exact .inl ⟨controller.term, rfl⟩
  | ready => exact .inl ⟨_, inTerm_fst controller _⟩
  | resync => exact .inl ⟨_, inTerm_fst controller _⟩
  | due => exact .inl ⟨_, inTerm_fst controller _⟩
  | take => exact .inl ⟨_, inTerm_fst controller _⟩
  | answer => exact .inl ⟨_, inTerm_fst controller _⟩
  | cancel => exact .inl ⟨_, inTerm_fst controller _⟩

/-- Terms are only ever counted up. -/
theorem terms_step (controller : Controller) (event : ControllerEvent) :
    controller.terms ≤ (controller.step event).1.terms := by
  obtain ⟨term, next⟩ | ⟨-, next⟩ | ⟨change, listed, term, -, next⟩ := controller.step_fst event
  · exact Nat.le_of_eq (congrArg Controller.terms next).symm
  · have counted : (controller.step event).1.terms = controller.terms + 1 :=
      congrArg Controller.terms next
    exact counted ▸ Nat.le_succ controller.terms
  · exact Nat.le_of_eq (congrArg Controller.terms next).symm

/-- The settings never change. -/
theorem attacher_step (controller : Controller) (event : ControllerEvent) :
    (controller.step event).1.attacher = controller.attacher := by
  obtain ⟨term, next⟩ | ⟨-, next⟩ | ⟨change, listed, term, -, next⟩ := controller.step_fst event
  all_goals exact (congrArg Controller.attacher next).trans rfl

/-- Only the feed of attachments changes which are cached. -/
theorem attachments_step
    (controller : Controller)
    {event : ControllerEvent}
    (spares : ∀ change, event ≠ .changed (.attachments change)) :
    (controller.step event).1.caches.attachments = controller.caches.attachments := by
  have same {next : Controller} (becomes : (controller.step event).1 = next) :
      (controller.step event).1.caches.attachments = next.caches.attachments :=
    congrArg (fun controller => controller.caches.attachments) becomes
  obtain ⟨term, next⟩ | ⟨-, next⟩ | ⟨change, listed, term, isChange, next⟩ :=
    controller.step_fst event
  · exact (same next).trans rfl
  · exact (same next).trans rfl
  · refine (same next).trans ?_
    cases change with
    | attachments change => exact absurd isChange (spares change)
    | volumes | nodes | registrations => rfl

/-- Only the feeds change what is cached. -/
theorem caches_step
    (controller : Controller)
    {event : ControllerEvent}
    (spares : ∀ change, event ≠ .changed change) :
    (controller.step event).1.caches = controller.caches := by
  obtain ⟨term, next⟩ | ⟨-, next⟩ | ⟨change, listed, term, isChange, next⟩ :=
    controller.step_fst event
  · exact (congrArg Controller.caches next).trans rfl
  · exact (congrArg Controller.caches next).trans rfl
  · exact absurd isChange (spares change)

end Controller

end VolumeAttacher
