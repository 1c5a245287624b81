import VolumeAttacher.Proofs.Controller.Jobs

/-!
# Names that are brought up

A name that was brought up is marked until it is handed out. What happens to a term marks the names
that it brings and no others, and only the end of a job changes how long its name would be delayed.
-/

namespace VolumeAttacher

/-- Only the failures of a key change with what becomes of it. -/
theorem Routing.backoff_settle_of_ne
    (queue : WorkQueue String)
    {key other : String}
    (result : Except Fault Unit)
    (differ : other ≠ key) :
    (Routing.settle queue key result).1.backoff other = queue.backoff other := by
  unfold Routing.settle
  split
  · exact queue.backoff_forget_of_ne differ
  · split
    · exact queue.backoff_fail_of_ne differ
    · rfl
    · exact queue.backoff_forget_of_ne differ

namespace Term

variable {term next : Term} {task other : Task}

/-- A name was brought up and not handed out since. -/
def Marked (term : Term) (task : Task) : Prop :=
  task.name ∈ (term.queue task.subject).dirty

instance (term : Term) (task : Task) : Decidable (term.Marked task) :=
  inferInstanceAs (Decidable (task.name ∈ (term.queue task.subject).dirty))

/-- The next interval of a name. -/
def interval (term : Term) (task : Task) : Nat :=
  ((term.queue task.subject).backoff task.name).interval

theorem closed_add (term : Term) (task : Task) (subject : Subject) :
    ((term.add task).queue subject).closed = (term.queue subject).closed :=
  view_withQueue WorkQueue.closed (WorkQueue.closed_add _ _) subject

theorem marked_add :
    (term.add other).Marked task ↔
      term.Marked task ∨ (term.queue task.subject).closed = false ∧ task = other := by
  by_cases same : task.subject = other.subject
  · unfold Marked add
    rw [same, queue_withQueue_self, WorkQueue.mem_dirty_add]
    exact or_congr_right (and_congr_right fun _ => ⟨Task.ext same, congrArg Task.name⟩)
  · have differ : task ≠ other := fun equal => same (congrArg Task.subject equal)
    unfold Marked add
    rw [queue_withQueue_of_ne _ _ same]
    simp [differ]

theorem marked_addAll {tasks : List Task} :
    (term.addAll tasks).Marked task ↔
      term.Marked task ∨ (term.queue task.subject).closed = false ∧ task ∈ tasks := by
  induction tasks generalizing term with
  | nil => simp [addAll]
  | cons first rest ih =>
    have step : term.addAll (first :: rest) = (term.add first).addAll rest := rfl
    rw [step, ih, marked_add, closed_add, List.mem_cons, or_assoc, ← and_or_left]

theorem interval_addAll (term : Term) (tasks : List Task) (task : Task) :
    (term.addAll tasks).interval task = term.interval task :=
  addAll_induction (fun next => next.interval task = term.interval task) term tasks rfl
    fun next other _ same => by
      rw [← same]
      exact view_withQueue (fun queue => (queue.backoff task.name).interval)
        (congrArg Backoff.interval (WorkQueue.backoff_add _ _ _)) task.subject

section Handout

variable {subject : Subject} {queue : WorkQueue String} {name : String}

/-- The name that is handed out was brought up. -/
theorem Sound.marked_of_handed
    (sound : term.Sound)
    (handed : (term.queue subject).get = (queue, .key name)) :
    term.Marked ⟨subject, name⟩ := by
  obtain ⟨-, rest, waiting, -⟩ := WorkQueue.eq_of_get handed
  exact (sound.queues subject).dirty name (by simp [waiting])

theorem marked_of_marked_handed
    (handed : (term.queue subject).get = (queue, .key name))
    (marked : (term.withQueue subject queue).Marked task) :
    term.Marked task := by
  obtain ⟨-, rest, -, rfl⟩ := WorkQueue.eq_of_get handed
  unfold Marked at marked ⊢
  by_cases same : task.subject = subject
  · subst same
    rw [queue_withQueue_self] at marked
    exact (List.mem_filter.mp marked).1
  · rwa [queue_withQueue_of_ne _ _ same] at marked

theorem interval_handed (handed : (term.queue subject).get = (queue, .key name)) :
    (term.withQueue subject queue).interval task = term.interval task := by
  obtain ⟨-, rest, -, rfl⟩ := WorkQueue.eq_of_get handed
  refine view_withQueue (fun queue => (queue.backoff task.name).interval) ?_ task.subject
  rfl

end Handout

/-- A job that goes on or is over brings up no name. -/
theorem marked_proceed {job : Job} : (term.proceed job).1.Marked task ↔ term.Marked task := by
  cases rest : job.rest with
  | ask request resume =>
    rw [proceed_ask rest]
    exact Iff.rfl
  | done result =>
    obtain ⟨failures, settled⟩ :=
      Routing.settle_eq (term.queue job.task.subject) job.task.name result
    rw [proceed_done rest, settle_eq, settled]
    unfold Marked
    refine iff_of_eq (congrArg (task.name ∈ ·) (view_withQueue WorkQueue.dirty ?_ task.subject))
    rw [WorkQueue.dirty_done]
    rfl

/-- A job that goes on or is over changes the next interval of no other name. -/
theorem interval_proceed_of_ne {job : Job} (differ : task ≠ job.task) :
    (term.proceed job).1.interval task = term.interval task := by
  cases rest : job.rest with
  | ask request resume =>
    rw [proceed_ask rest]
    rfl
  | done result =>
    rw [proceed_done rest, settle_eq]
    unfold interval
    by_cases same : task.subject = job.task.subject
    · have named : task.name ≠ job.task.name := fun equal => differ (Task.ext same equal)
      rw [same, queue_withQueue_self, WorkQueue.backoff_done,
        Routing.backoff_settle_of_ne _ _ named]
    · rw [queue_withQueue_of_ne _ _ same]
      rfl

end Term

end VolumeAttacher
