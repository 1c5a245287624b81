import VolumeAttacher.Cluster.Client
import VolumeAttacher.Proofs.Controller.Retention
import VolumeAttacher.Proofs.Reconciliation.Feed

/-!
# Volumes that are overlooked

A volume that is being deleted is to lose the finalizer once no attachment of the driver refers to
it. Its name comes to the queue whenever a feed tells of the volume or of an attachment that refers
to it. A change can free a volume without telling of any such attachment: a listing leaves the last
one out, or the last one is told to refer elsewhere. The name of the volume then stays out of the
queue, and nothing else is ever forgotten.
-/

namespace VolumeAttacher

namespace Caches

/-- A volume is being deleted and carries the finalizer, and no attachment of the driver refers to
it. -/
def IsFree (attacher : Attacher) (caches : Caches) (name : String) : Prop :=
  ∃ volume, caches.volume? name = some volume ∧ volume.metadata.isDeleting = true ∧
    volume.metadata.hasFinalizer attacher.finalizer = true ∧
      Reconciliation.isInUse attacher caches name = false

/-- The volume of a name, if it is to lose the finalizer. -/
def releasable? (attacher : Attacher) (caches : Caches) (name : String) :
    Option PersistentVolume :=
  (caches.volume? name).filter fun volume =>
    volume.metadata.isDeleting && volume.metadata.hasFinalizer attacher.finalizer &&
      !Reconciliation.isInUse attacher caches name

variable {attacher : Attacher} {caches : Caches} {name : String} {volume : PersistentVolume}

theorem releasable?_eq_some_iff :
    caches.releasable? attacher name = some volume ↔
      caches.volume? name = some volume ∧ volume.metadata.isDeleting = true ∧
        volume.metadata.hasFinalizer attacher.finalizer = true ∧
          Reconciliation.isInUse attacher caches name = false := by
  simp [releasable?, Option.filter_eq_some_iff, and_assoc]

theorem isFree_iff :
    caches.IsFree attacher name ↔ ∃ volume, caches.releasable? attacher name = some volume := by
  simp only [releasable?_eq_some_iff]
  exact Iff.rfl

/-- A volume of a name after a change that does not bring the name was there before. -/
theorem volume?_of_apply
    {change : CacheChange}
    (found : (caches.apply change).volume? name = some volume)
    (carries : volume.metadata.hasFinalizer attacher.finalizer = true)
    (silent : ⟨.volume, name⟩ ∉ change.tasks attacher) :
    caches.volume? name = some volume := by
  cases change with
  | attachments | nodes | registrations => exact found
  | volumes change =>
    obtain told | before := Change.find?_apply change found
    · have named : volume.name = name := by simpa using List.find?_some found
      refine absurd (List.mem_flatMap.mpr ⟨volume, told, ?_⟩) silent
      simp [Routing.ofVolume, carries, named]
    · exact before

end Caches

/-- The reconciliation of a volume asks for one thing at most. -/
theorem Reconciliation.volume_run (attacher : Attacher) (caches : Caches) (name : String) :
    (Reconciliation.volume attacher caches name).run =
      match caches.releasable? attacher name with
      | none => .done (.ok ())
      | some volume => .ask (.removeVolumeFinalizer volume attacher.finalizer) .done := by
  unfold Reconciliation.volume Caches.releasable?
  cases caches.volume? name with
  | none => rfl
  | some volume =>
    simp only [Option.filter_some]
    split <;> rfl

namespace Routing

/-- Everything that is to be released is among what the caches bring. -/
theorem mem_ofCaches_of_releasable?
    {attacher : Attacher}
    {caches : Caches}
    {name : String}
    {volume : PersistentVolume}
    (free : caches.releasable? attacher name = some volume) :
    ⟨.volume, name⟩ ∈ ofCaches attacher caches := by
  obtain ⟨cached, -, carries, -⟩ := Caches.releasable?_eq_some_iff.mp free
  have named : volume.name = name := by simpa using List.find?_some cached
  refine List.mem_append_right _ (List.mem_flatMap.mpr
    ⟨volume, List.mem_of_find?_eq_some cached, ?_⟩)
  simp [ofVolume, carries, named]

/-- An attachment brings the name of its volume. -/
theorem mem_ofAttachment_of_uses
    {attacher : Attacher}
    {attachment : VolumeAttachment}
    {name : String}
    (uses : attachment.uses attacher.driver name = true) :
    ⟨.volume, name⟩ ∈ ofAttachment attacher attachment := by
  obtain ⟨own, refers⟩ := Bool.and_eq_true_iff.mp uses
  simp [ofAttachment, own, of_decide_eq_true refers]

/-- A key whose fault is tried again is delayed. -/
theorem exists_delay_of_isRetryable
    {fault : Fault}
    (queue : WorkQueue String)
    (key : String)
    (retried : fault.isRetryable = true) :
    ∃ nanos, (settle queue key (.error fault)).2 = some nanos := by
  unfold settle
  cases retry : fault.retry with
  | never => simp [Fault.isRetryable, retry] at retried
  | backoff | after delay =>
    simp only [retry]
    exact ⟨_, rfl⟩

end Routing

/-- The other jobs are there whether a job goes on or is over. -/
theorem Term.mem_jobs_proceed
    {term : Term}
    {job other : Job}
    (present : other ∈ term.others job.task) :
    other ∈ (term.proceed job).1.jobs := by
  cases rest : job.rest with
  | done result => simpa [proceed_done rest, settle_eq] using present
  | ask request resume => simpa [proceed_ask rest] using Or.inr present

/-- The other names stay marked when one is handed out. -/
theorem Term.marked_withQueue_of_handed
    {term : Term}
    {subject : Subject}
    {queue : WorkQueue String}
    {name : String}
    {task : Task}
    (handed : (term.queue subject).get = (queue, .key name))
    (differ : task ≠ ⟨subject, name⟩)
    (marked : term.Marked task) :
    (term.withQueue subject queue).Marked task := by
  obtain ⟨-, rest, -, rfl⟩ := WorkQueue.eq_of_get handed
  unfold Marked at marked ⊢
  by_cases same : task.subject = subject
  · subst same
    have named : task.name ≠ name := fun equal => differ (Task.ext rfl equal)
    rw [queue_withQueue_self]
    exact List.mem_filter.mpr ⟨marked, by simpa using named⟩
  · rwa [queue_withQueue_of_ne _ _ same]

namespace Controller

/-- A controller never begins or ceases to feed its caches. -/
theorem isFeeding_step (controller : Controller) (event : ControllerEvent) :
    (controller.step event).1.isFeeding = controller.isFeeding := by
  obtain ⟨term, next⟩ | ⟨-, next⟩ | ⟨change, listed, term, -, next⟩ := controller.step_fst event
  all_goals exact (congrArg Controller.isFeeding next).trans rfl

/-- Every job waits for an answer. -/
theorem Sound.asking
    {controller : Controller}
    {job : Job}
    (sound : controller.Sound)
    (present : job ∈ controller.jobs) :
    ∃ request resume, job.rest = .ask request resume := by
  cases running : controller.term with
  | none => simp [jobs_of_idle running] at present
  | some term =>
    rw [jobs_of_running running] at present
    exact (sound term running).asking job present

end Controller

/-- The volume from which an answer says that the finalizer was taken. -/
def Request.released? : (request : Request) → request.Answer → Option PersistentVolume
  | .removeVolumeFinalizer volume _, .ok () => some volume
  | _, _ => none

/-- A controller, and what is known of what it left undone. -/
structure Vigil where
  controller : Controller
  /-- The names that are to come to their queues in a term. -/
  delayed : List (Nat × Task)
  /-- The versions of volumes from which the server took the finalizer. -/
  released : List PersistentVolume
  /-- The volumes that became free without their names being brought since. -/
  overlooked : String → Prop

namespace Vigil

/-- The names that an event brings to the queues. -/
def brought (vigil : Vigil) (event : ControllerEvent) : List Task :=
  vigil.controller.term.toList.flatMap fun term => vigil.controller.brought term event

/-- An event tells of attachments, but of none that refers to a volume in use. -/
def Drops (vigil : Vigil) (event : ControllerEvent) (name : String) : Prop :=
  Reconciliation.isInUse vigil.controller.attacher vigil.controller.caches name = true ∧
    ∃ change, event = .changed (.attachments change) ∧
      ∀ told ∈ change.objects, told.uses vigil.controller.attacher.driver name = false

/-- The names that are delayed after an event. -/
def delayedAfter (vigil : Vigil) (event : ControllerEvent) : List (Nat × Task) :=
  let kept := match event with
    | .due number task => vigil.delayed.erase (number, task)
    | _ => vigil.delayed
  (vigil.controller.term.toList.flatMap fun term =>
    (vigil.controller.step event).2.map fun delay => (term.number, delay.task)) ++ kept

/-- The versions of volumes that have lost the finalizer after an event. -/
def releasedAfter (vigil : Vigil) : ControllerEvent → List PersistentVolume
  | .answer task reply =>
    ((vigil.controller.asked? task).bind fun request =>
      request.released? (reply request)).toList ++ vigil.released
  | _ => vigil.released

/-- The vigil after an event. -/
def after (vigil : Vigil) (event : ControllerEvent) : Vigil where
  controller := (vigil.controller.step event).1
  delayed := vigil.delayedAfter event
  released := vigil.releasedAfter event
  overlooked name :=
    (vigil.controller.step event).1.caches.IsFree vigil.controller.attacher name ∧
      (vigil.Drops event name ∨ vigil.overlooked name ∧ ⟨.volume, name⟩ ∉ vigil.brought event)

/-- The finalizer of a volume is taken away, or there is a fault after which it is tried again. -/
def Persists (event : ControllerEvent) : Prop :=
  ∀ task reply, event = .answer task reply → ∀ volume finalizer fault,
    reply (.removeVolumeFinalizer volume finalizer) = .error fault → fault.isRetryable = true

/-- Whatever the cluster answers to the write, it is tried again if it is a fault. -/
theorem persists_of_volumeWritten
    {task : Task}
    {reply : (request : Request) → request.Answer}
    (answers : ∀ volume finalizer, ∃ response,
      reply (.removeVolumeFinalizer volume finalizer) = ClusterClient.volumeWritten response) :
    Persists (.answer task reply) := by
  rintro _ _ ⟨⟩ volume finalizer fault failed
  obtain ⟨response, answered⟩ := answers volume finalizer
  have failed : ClusterClient.volumeWritten response = .error fault := answered.symm.trans failed
  unfold ClusterClient.volumeWritten at failed
  split at failed
  · cases failed
  · obtain rfl := Except.error.inj failed
    rfl

/-- What may come of a controller. -/
inductive Reachable (start : Controller) : Vigil → Prop
  | begin : Reachable start ⟨start, [], [], fun _ => False⟩
  | after {vigil : Vigil} {event : ControllerEvent}
      (reachable : Reachable start vigil)
      (admitted : vigil.controller.admits event)
      (persists : Persists event) :
    Reachable start (vigil.after event)

/-- The name of a volume waits, or what is to be done with this version is being done or was done. -/
def Pending
    (vigil : Vigil)
    (attacher : Attacher)
    (term : Term)
    (name : String)
    (volume : PersistentVolume) : Prop :=
  term.Marked ⟨.volume, name⟩ ∨ (term.number, ⟨.volume, name⟩) ∈ vigil.delayed ∨
    ⟨⟨.volume, name⟩, .ask (.removeVolumeFinalizer volume attacher.finalizer) .done⟩ ∈ term.jobs ∨
      volume ∈ vigil.released

/-- Whatever is to be released is pending or was overlooked. -/
structure Kept (attacher : Attacher) (vigil : Vigil) : Prop where
  settings : vigil.controller.attacher = attacher
  feeding : vigil.controller.isFeeding = true
  sound : vigil.controller.Sound
  attended : ∀ term, vigil.controller.term = some term → term.Attended
  asks : ∀ job ∈ vigil.controller.jobs, job.task.subject = .volume →
    ∃ volume, job.rest = .ask (.removeVolumeFinalizer volume attacher.finalizer) .done
  overlooked : ∀ name, vigil.overlooked name → vigil.controller.caches.IsFree attacher name
  pending : ∀ term, vigil.controller.term = some term → term.stage = .working →
    ∀ name volume, vigil.controller.caches.releasable? attacher name = some volume →
      vigil.overlooked name ∨ vigil.Pending attacher term name volume

variable {attacher : Attacher} {vigil : Vigil} {event : ControllerEvent} {term next : Term}
  {name : String} {volume : PersistentVolume} {delayed : List Delayed}

theorem brought_of_running (running : vigil.controller.term = some term) :
    vigil.brought event = vigil.controller.brought term event := by
  simp [brought, running]

/-- A delayed name stays so until it is brought. -/
theorem mem_delayedAfter
    {task : Task}
    (running : vigil.controller.term = some term)
    (waits : (term.number, task) ∈ vigil.delayed)
    (silent : task ∉ vigil.brought event) :
    (term.number, task) ∈ vigil.delayedAfter event := by
  refine List.mem_append_right _ ?_
  cases event with
  | due number other =>
    refine (List.mem_erase_of_ne ?_).mpr waits
    intro same
    obtain ⟨rfl, rfl⟩ := Prod.mk.inj same
    rw [brought_of_running running] at silent
    simp [Controller.brought] at silent
  | start | changed | ready | resync | take | answer | cancel | ended => exact waits

theorem mem_releasedAfter (gone : volume ∈ vigil.released) :
    volume ∈ vigil.releasedAfter event := by
  cases event with
  | answer task reply => exact List.mem_append_right _ gone
  | start | changed | ready | resync | due | take | cancel | ended => exact gone

namespace Kept

/-- A volume that is to be released after a silent event was there before. -/
theorem cached_of_silent
    (kept : vigil.Kept attacher)
    (free : (vigil.after event).controller.caches.releasable? attacher name = some volume)
    (admitted : vigil.controller.admits event)
    (silent : ⟨.volume, name⟩ ∉ vigil.brought event) :
    vigil.controller.caches.volume? name = some volume := by
  obtain ⟨cached, -, carries, -⟩ := Caches.releasable?_eq_some_iff.mp free
  obtain ⟨term, same⟩ | ⟨rfl, same⟩ | ⟨change, listed, term, rfl, same⟩ :=
    vigil.controller.step_fst event
  · rw [after, same] at cached
    exact cached
  · rw [after, same] at cached
    exact cached
  · rw [after, same] at cached
    obtain ⟨running, isRunning⟩ := Option.isSome_iff_exists.mp admitted
    refine Caches.volume?_of_apply cached carries ?_
    rw [brought_of_running isRunning] at silent
    simpa [Controller.brought, kept.feeding, kept.settings] using silent

/-- A name that waits to be handed out waits until a job asks for what is to be done. -/
theorem pending_of_marked
    (kept : vigil.Kept attacher)
    (passage : vigil.controller.Passage term event next delayed)
    (works : next.stage = .working)
    (free : vigil.controller.caches.releasable? attacher name = some volume)
    (marked : term.Marked ⟨.volume, name⟩) :
    next.Marked ⟨.volume, name⟩ ∨
      ⟨⟨.volume, name⟩, .ask (.removeVolumeFinalizer volume attacher.finalizer) .done⟩ ∈
        next.jobs := by
  cases passage with
  | adds | begins => exact .inl (Term.marked_addAll.mpr (.inl marked))
  | @takes subject queue taken works handed free' =>
    by_cases same : (⟨.volume, name⟩ : Task) = ⟨subject, taken⟩
    · obtain ⟨rfl, rfl⟩ := Task.mk.inj same
      have rest : (vigil.controller.job ⟨.volume, name⟩).rest =
          .ask (.removeVolumeFinalizer volume attacher.finalizer) .done := by
        refine (Reconciliation.volume_run _ _ name).trans ?_
        rw [kept.settings, free]
      rw [Term.proceed_ask rest]
      exact .inr (List.mem_cons.mpr (.inl (congrArg (Job.mk _) rest.symm)))
    · exact .inl (Term.marked_proceed.mpr (Term.marked_withQueue_of_handed handed same marked))
  | answers => exact .inl (Term.marked_proceed.mpr marked)
  | ignores => exact .inl marked
  | cancels => cases works

/-- The answer to a removal is that the volume was released, or the name is delayed. -/
theorem pending_of_answered
    {reply : (request : Request) → request.Answer}
    (kept : vigil.Kept attacher)
    (persists : Persists (.answer ⟨.volume, name⟩ reply))
    (running : vigil.controller.term = some term)
    (waits : ⟨⟨.volume, name⟩, .ask (.removeVolumeFinalizer volume attacher.finalizer) .done⟩ ∈
      term.jobs) :
    (term.number, ⟨.volume, name⟩) ∈ vigil.delayedAfter (.answer ⟨.volume, name⟩ reply) ∨
      volume ∈ vigil.releasedAfter (.answer ⟨.volume, name⟩ reply) := by
  cases outcome : reply (.removeVolumeFinalizer volume attacher.finalizer) with
  | ok done =>
    have asked := kept.sound.asked?_eq (Controller.jobs_of_running running ▸ waits)
    refine .inr (List.mem_append_left _ ?_)
    rw [asked, Option.bind_some, outcome]
    exact List.mem_singleton_self volume
  | error fault =>
    have retried := persists _ _ rfl volume attacher.finalizer fault outcome
    have step := (kept.sound term running).step_answer reply running waits
    obtain ⟨nanos, delay⟩ :=
      Routing.exists_delay_of_isRetryable (term.queue .volume) name retried
    refine .inl (List.mem_append_left _ ?_)
    rw [running, step, outcome, Term.proceed_done rfl, Term.settle_eq, delay]
    simp

/-- What is pending stays so, or is brought up, as long as the term works. -/
theorem pending_of_silent
    (kept : vigil.Kept attacher)
    (persists : Persists event)
    (running : vigil.controller.term = some term)
    (passage : vigil.controller.Passage term event next delayed)
    (works : next.stage = .working)
    (free : vigil.controller.caches.releasable? attacher name = some volume)
    (silent : ⟨.volume, name⟩ ∉ vigil.brought event)
    (pending : vigil.Pending attacher term name volume) :
    (vigil.after event).Pending attacher next name volume := by
  have sound := kept.sound term running
  unfold Pending at pending ⊢
  rw [passage.number_eq]
  obtain marked | waits | job | gone := pending
  · obtain marked | job := kept.pending_of_marked passage works free marked
    · exact .inl marked
    · exact .inr (.inr (.inl job))
  · exact .inr (.inl (mem_delayedAfter running waits silent))
  · cases passage with
    | adds | begins => exact .inr (.inr (.inl (by simpa using job)))
    | @takes subject queue taken works handed free' =>
      have differs := sound.task_ne_of_get handed _ job
      refine .inr (.inr (.inl (Term.mem_jobs_proceed (Term.mem_others.mpr ⟨?_, differs⟩))))
      rwa [Term.jobs_withQueue]
    | @answers task reply request resume waits =>
      by_cases same : (⟨.volume, name⟩ : Task) = task
      · subst same
        obtain later | gone := kept.pending_of_answered persists running job
        · exact .inr (.inl later)
        · exact .inr (.inr (.inr gone))
      · exact .inr (.inr (.inl (Term.mem_jobs_proceed (Term.mem_others.mpr ⟨job, same⟩))))
    | ignores => exact .inr (.inr (.inl job))
    | cancels => cases works
  · exact .inr (.inr (.inr (mem_releasedAfter gone)))

/-- A volume that was in use is freed without its name being brought only by a change that tells of
no attachment that refers to it. -/
theorem drops_of_freed
    (kept : vigil.Kept attacher)
    (running : vigil.controller.term = some term)
    (used : Reconciliation.isInUse attacher vigil.controller.caches name = true)
    (free : (vigil.after event).controller.caches.releasable? attacher name = some volume)
    (silent : ⟨.volume, name⟩ ∉ vigil.brought event) :
    vigil.Drops event name := by
  obtain ⟨-, -, -, unused⟩ := Caches.releasable?_eq_some_iff.mp free
  refine ⟨kept.settings ▸ used, ?_⟩
  by_cases told : ∃ change, event = .changed (.attachments change)
  · obtain ⟨change, rfl⟩ := told
    refine ⟨change, rfl, fun told isTold => ?_⟩
    rw [Bool.eq_false_iff]
    intro uses
    refine silent ?_
    rw [brought_of_running running]
    simp only [Controller.brought, kept.feeding, if_true]
    exact List.mem_flatMap.mpr ⟨told, isTold, Routing.mem_ofAttachment_of_uses uses⟩
  · have same := vigil.controller.attachments_step
      fun change isChange => told ⟨change, isChange⟩
    unfold Reconciliation.isInUse at used unused
    rw [Vigil.after, same, used] at unused
    cases unused

/-- Whatever is to be released after an event is pending or was overlooked. -/
theorem pending_after
    (kept : vigil.Kept attacher)
    (admitted : vigil.controller.admits event)
    (persists : Persists event)
    (running : vigil.controller.term = some term)
    (passage : vigil.controller.Passage term event next delayed)
    (works : next.stage = .working)
    (free : (vigil.after event).controller.caches.releasable? attacher name = some volume) :
    (vigil.after event).overlooked name ∨
      (vigil.after event).Pending attacher next name volume := by
  by_cases brought : ⟨.volume, name⟩ ∈ vigil.brought event
  · rw [brought_of_running running] at brought
    have goesOn : term.stage ≠ .stopping := passage.goesOn (by simp [works])
    have opened := (kept.attended term running).opened goesOn .volume
    exact .inr (.inl (passage.marked_of_brought opened goesOn brought).2)
  · have isFree : (vigil.controller.step event).1.caches.IsFree vigil.controller.attacher name :=
      kept.settings ▸ Caches.isFree_iff.mpr ⟨volume, free⟩
    cases used : Reconciliation.isInUse attacher vigil.controller.caches name with
    | true => exact .inl ⟨isFree, .inl (kept.drops_of_freed running used free brought)⟩
    | false =>
      have cached := kept.cached_of_silent free admitted brought
      obtain ⟨-, leaving, carries, -⟩ := Caches.releasable?_eq_some_iff.mp free
      have before := Caches.releasable?_eq_some_iff.mpr ⟨cached, leaving, carries, used⟩
      have worked : term.stage = .working := by
        cases passage with
        | begins waits ready =>
          have all := Routing.mem_ofCaches_of_releasable? before
          rw [brought_of_running running] at brought
          simp [Controller.brought, waits, ready, kept.settings, all] at brought
        | cancels => cases works
        | adds | takes | answers | ignores => simpa using works
      obtain overlooked | pending := kept.pending term running worked name volume before
      · exact .inl ⟨isFree, .inr ⟨overlooked, brought⟩⟩
      · exact .inr (kept.pending_of_silent persists running passage works before brought pending)

/-- The job of a volume asks for the removal of the finalizer and ends with the answer. -/
theorem asks_after
    {job : Job}
    (kept : vigil.Kept attacher)
    (present : job ∈ (vigil.after event).controller.jobs)
    (about : job.task.subject = .volume) :
    ∃ volume, job.rest = .ask (.removeVolumeFinalizer volume attacher.finalizer) .done := by
  obtain ⟨request, resume, asking⟩ := (kept.sound.step event).asking present
  obtain ⟨⟨subject, name⟩, rest⟩ := job
  obtain rfl : subject = .volume := about
  obtain rfl : rest = .ask request resume := asking
  cases kept.sound.origin present with
  | kept present => exact kept.asks _ present rfl
  | taken takes fresh same =>
    have run := (congrArg Job.rest same).trans (Reconciliation.volume_run _ _ name)
    dsimp only at run
    split at run
    · cases run
    · next volume free => exact ⟨volume, kept.settings ▸ run⟩
  | answered earlier resume' reply present answers same =>
    obtain ⟨volume, asked⟩ := kept.asks _ present rfl
    cases asked
    cases same

theorem after
    (kept : vigil.Kept attacher)
    (admitted : vigil.controller.admits event)
    (persists : Persists event) :
    (vigil.after event).Kept attacher where
  settings := (vigil.controller.attacher_step event).trans kept.settings
  feeding := (vigil.controller.isFeeding_step event).trans kept.feeding
  sound := kept.sound.step event
  attended := Controller.term_step vigil.controller.attended_freshTerm
    (fun _ _ _ passage attended => attended.passage passage) kept.attended
  asks _ present := kept.asks_after present
  overlooked name isOverlooked := kept.settings ▸ isOverlooked.1
  pending next goesOn works name volume free := by
    cases running : vigil.controller.term with
    | none =>
      obtain ⟨-, ⟨-, started⟩ | ended⟩ := vigil.controller.step_idle event running
      · rw [Vigil.after, started] at goesOn
        obtain rfl := Option.some.inj goesOn
        cases works
      · cases ended.symm.trans goesOn
    | some term =>
      obtain ⟨-, ended⟩ | ⟨other, present, passage⟩ :=
        Controller.passage_step event running
      · rw [Vigil.after, ended] at goesOn
        cases goesOn
      · obtain rfl := Option.some.inj (present.symm.trans goesOn)
        exact kept.pending_after admitted persists running passage works free

end Kept

theorem Reachable.kept
    {retryStart retryMaximum : Duration}
    {workers : Nat}
    (reachable : Reachable (.idle attacher retryStart retryMaximum workers true) vigil) :
    vigil.Kept attacher := by
  induction reachable with
  | begin => exact ⟨rfl, rfl, nofun, nofun, nofun, nofun, nofun⟩
  | after _ admitted persists kept => exact kept.after admitted persists

/-- The term works, every name was handed out and no job is left, nothing is delayed, and the feed
told of every volume what became of the version that was released. -/
structure AtRest (vigil : Vigil) (term : Term) : Prop where
  running : vigil.controller.term = some term
  working : term.stage = .working
  synced : ∀ task, ¬ term.Marked task
  idle : term.jobs = []
  prompt : ∀ task, (term.number, task) ∉ vigil.delayed
  told : ∀ volume ∈ vigil.released,
    vigil.controller.caches.volume? volume.name ≠ some volume

/-- At rest the volumes that are still to lose the finalizer are those that were overlooked: they
were freed by a change that told of no attachment that refers to them, and their names were not
brought since. -/
theorem Reachable.isFree_iff_overlooked
    {retryStart retryMaximum : Duration}
    {workers : Nat}
    (reachable : Reachable (.idle attacher retryStart retryMaximum workers true) vigil)
    (rest : vigil.AtRest term)
    (name : String) :
    vigil.controller.caches.IsFree attacher name ↔ vigil.overlooked name := by
  have kept := reachable.kept
  refine ⟨fun isFree => ?_, kept.overlooked name⟩
  obtain ⟨volume, free⟩ := Caches.isFree_iff.mp isFree
  obtain overlooked | marked | waits | job | gone :=
    kept.pending term rest.running rest.working name volume free
  · exact overlooked
  · exact absurd marked (rest.synced _)
  · exact absurd waits (rest.prompt _)
  · exact absurd job (rest.idle ▸ List.not_mem_nil)
  · obtain ⟨cached, -⟩ := Caches.releasable?_eq_some_iff.mp free
    have named : volume.name = name := by simpa using List.find?_some cached
    exact absurd (named ▸ cached) (rest.told volume gone)

/-- A vigil is at rest if its queues and lists are empty. -/
theorem atRest_of_empty
    (running : vigil.controller.term = some term)
    (working : term.stage = .working)
    (attachments : term.attachments.dirty = [])
    (volumes : term.volumes.dirty = [])
    (idle : term.jobs = [])
    (prompt : vigil.delayed = [])
    (told : ∀ volume ∈ vigil.released,
      vigil.controller.caches.volume? volume.name ≠ some volume) :
    vigil.AtRest term where
  running := running
  working := working
  synced task := by
    obtain ⟨subject, name⟩ := task
    cases subject with
    | attachment => simp [Term.Marked, Term.queue, attachments]
    | volume => simp [Term.Marked, Term.queue, volumes]
  idle := idle
  prompt _ := prompt ▸ List.not_mem_nil
  told := told

theorem Reachable.foldl
    {start : Controller}
    {events : List ControllerEvent}
    (reachable : Reachable start vigil)
    (listings : List (Nat × Feed))
    (admitted : History.admitsAll ⟨vigil.controller, listings⟩ events)
    (persists : ∀ event ∈ events, Persists event) :
    Reachable start (events.foldl Vigil.after vigil) := by
  induction events generalizing vigil listings with
  | nil => exact reachable
  | cons event rest ih =>
    simp only [History.admitsAll, Bool.and_eq_true] at admitted
    obtain ⟨first, persists⟩ := List.forall_mem_cons.mp persists
    exact ih (reachable.after admitted.1 first) _ admitted.2 persists

/-- A controller that gets events from the beginning. -/
def run (events : List ControllerEvent) : Vigil :=
  events.foldl Vigil.after ⟨History.hostPathController, [], [], fun _ => False⟩

/-- An attachment that needs nothing more. -/
def settledAttachment : VolumeAttachment :=
  { TimedController.boundAttachment "1" with attached := true }

/-- The feeds list an attachment and its volume, which is being deleted, and their names are handed
out. -/
def settling : List ControllerEvent :=
  [.start, .changed (.attachments (.listed [settledAttachment])),
    .changed (.volumes (.listed [Estate.doomedVolume])), .changed (.nodes (.listed [])),
    .changed (.registrations (.listed [])), .ready, .take .attachment, .take .volume]

/-- The feed tells that the attachment is gone, and the volume loses the finalizer and is gone too. -/
def releasing : List ControllerEvent :=
  settling ++ [.changed (.attachments (.deleted settledAttachment)), .take .attachment,
    .take .volume, .answer ⟨.volume, "pv-1"⟩ TimedController.busyDriver,
    .changed (.volumes (.deleted Estate.doomedVolume)), .take .volume]

theorem reachable_releasing : Reachable History.hostPathController (run releasing) := by
  refine Reachable.begin.foldl [] (by decide) ?_
  rintro _ isEvent task reply rfl
  obtain ⟨-, rfl⟩ : task = ⟨.volume, "pv-1"⟩ ∧ reply = TimedController.busyDriver := by
    simpa [releasing, settling] using isEvent
  have persists : Persists (.answer task TimedController.busyDriver) :=
    persists_of_volumeWritten fun _ _ => ⟨⟨200, .object [("metadata", .object [])]⟩, rfl⟩
  exact persists task _ rfl

theorem atRest_releasing : ∃ term, (run releasing).AtRest term := by
  refine ⟨_, atRest_of_empty rfl rfl rfl rfl rfl rfl ?_⟩
  intro volume _
  exact (Option.some_ne_none volume).symm

/-- Nothing is left to be released if the feed tells that the attachment is gone. -/
theorem overlooked_in_releasing :
    Reachable History.hostPathController (run releasing) ∧
      ∃ term, (run releasing).AtRest term ∧
        ((run releasing).controller.caches.IsFree History.hostPath "pv-1" ↔
          (run releasing).overlooked "pv-1") := by
  obtain ⟨term, rest⟩ := atRest_releasing
  exact ⟨reachable_releasing, term, rest,
    reachable_releasing.isFree_iff_overlooked rest "pv-1"⟩

/-- The feed lists the attachments anew, and the attachment is gone. -/
def relisting : List ControllerEvent :=
  settling ++ [.changed (.attachments (.listed []))]

theorem reachable_relisting : Reachable History.hostPathController (run relisting) := by
  refine Reachable.begin.foldl [] (by decide) ?_
  rintro _ isEvent task reply rfl
  simp [relisting, settling] at isEvent

theorem atRest_relisting : ∃ term, (run relisting).AtRest term := by
  refine ⟨_, atRest_of_empty rfl rfl rfl rfl rfl rfl ?_⟩
  intro volume gone
  exact absurd gone List.not_mem_nil

/-- The feed tells that the attachment refers to another volume. -/
def moving : List ControllerEvent :=
  settling ++
    [.changed (.attachments (.applied { settledAttachment with volumeName := some "pv-2" })),
      .take .attachment, .take .volume]

theorem reachable_moving : Reachable History.hostPathController (run moving) := by
  refine Reachable.begin.foldl [] (by decide) ?_
  rintro _ isEvent task reply rfl
  simp [moving, settling] at isEvent

theorem atRest_moving : ∃ term, (run moving).AtRest term := by
  refine ⟨_, atRest_of_empty rfl rfl rfl rfl rfl rfl ?_⟩
  intro volume gone
  exact absurd gone List.not_mem_nil

/-- The controller comes to rest and leaves the finalizer on a volume that nothing uses, if only a
listing shows that the attachment is gone, or if the attachment is told to refer elsewhere. -/
theorem left_in_relisting_and_moving :
    (Reachable History.hostPathController (run relisting) ∧
      (∃ term, (run relisting).AtRest term) ∧
        (run relisting).controller.caches.IsFree History.hostPath "pv-1") ∧
      Reachable History.hostPathController (run moving) ∧
        (∃ term, (run moving).AtRest term) ∧
          (run moving).controller.caches.IsFree History.hostPath "pv-1" :=
  ⟨⟨reachable_relisting, atRest_relisting, Estate.doomedVolume, rfl, rfl, by decide, by decide⟩,
    reachable_moving, atRest_moving, Estate.doomedVolume, rfl, rfl, by decide, by decide⟩

end Vigil

end VolumeAttacher
