import Mathlib.Data.List.Induction
import VolumeAttacher.Proofs.Controller.Custody
import VolumeAttacher.Proofs.Driver.Declaration
import VolumeAttacher.Proofs.Reconciliation.Separation

/-!
# Calls of a driver follow from its declarations

Whatever happens to a controller, each call of the driver goes back to the caches of the moment in
which a worker took the attachment, and to the strategy. The strategy follows from what the driver
declared, and of this only three numbers matter.
-/

namespace VolumeAttacher

/-- A request that tells the driver of a volume has its reason in the attachment of a task. -/
def Caches.Warrants (attacher : Attacher) (caches : Caches) (task : Task) : Request → Prop
  | .publish request _ =>
    ∃ honorsReadOnly attachment volume source,
      attacher.strategy = .driverBacked honorsReadOnly ∧
      caches.attachment? task.name = some attachment ∧
      Reconciliation.Targets attacher caches attachment volume source ∧
      request.volumeId = source.handle ∧
      request.readOnly = (volume.isReadOnly source && honorsReadOnly)
  | .unpublish _ _ => attacher.strategy ≠ .trivial
  | _ => True

/-- Every request of a reconciliation has its reason. -/
theorem Reconciliation.ofTask_warranted (attacher : Attacher) (caches : Caches) (task : Task) :
    Follows (always (caches.Warrants attacher task)) Whichever ()
      (ofTask attacher caches task) := by
  refine ofTask_follows ?_ ?_ ?_
  · intro request silent
    cases request with
    | publish | unpublish => cases silent
    | _ => trivial
  · intro honorsReadOnly attachment volume source nodeId access secrets backed cached targets
    exact ⟨honorsReadOnly, attachment, volume, source, backed, cached, targets, rfl, rfl⟩
  · intro honorsReadOnly attachment volume source nodeId secrets backed cached targets trivial
    cases backed.symm.trans trivial

namespace Controller

variable {start : Controller} {events : List ControllerEvent}

/-- A worker took the name of a task after the earlier events, and has been at it since then. -/
structure TakenAfter (start : Controller) (earlier events : List ControllerEvent) (task : Task) :
    Prop where
  free : ∀ job ∈ (start.run earlier).jobs, job.task ≠ task
  takes : earlier ++ [.take task.subject] <+: events
  busy : ∀ between, earlier ++ [.take task.subject] <+: between → between <+: events →
    ∃ job ∈ (start.run between).jobs, job.task = task

/-- The worker that took a name is still at it after one more event. -/
theorem TakenAfter.concat
    {earlier : List ControllerEvent}
    {event : ControllerEvent}
    {task : Task}
    (taken : TakenAfter start earlier events task)
    (isBusy : ∃ job ∈ (start.run (events ++ [event])).jobs, job.task = task) :
    TakenAfter start earlier (events ++ [event]) task where
  free := taken.free
  takes := taken.takes.trans (List.prefix_append _ _)
  busy between after before := by
    obtain rfl | before := List.prefix_concat_iff.mp before
    · exact isBusy
    · exact taken.busy between after before

/-- What a job still asks has its reason in the caches of the moment in which its name was taken. -/
def Warranted (start : Controller) (events : List ControllerEvent) (job : Job) : Prop :=
  ∃ earlier, TakenAfter start earlier events job.task ∧
    Dialogue.Follows
      (Reconciliation.always ((start.run earlier).caches.Warrants start.attacher job.task))
      Reconciliation.Whichever () job.rest

/-- The jobs of a controller that began without any keep their reasons. -/
theorem warranted_run (idle : start.term = none) :
    ∀ job ∈ (start.run events).jobs, Warranted start events job := by
  have sound : start.Sound := fun term running => by cases idle.symm.trans running
  induction events using List.reverseRecOn with
  | nil =>
    intro job present
    simp [run, jobs_of_idle idle] at present
  | append_singleton events event inductionHypothesis =>
    intro job present
    have origin := sound.run.origin (run_concat start events event ▸ present)
    cases origin with
    | kept before _ =>
      obtain ⟨earlier, taken, follows⟩ := inductionHypothesis job before
      exact ⟨earlier, taken.concat ⟨job, present, rfl⟩, follows⟩
    | taken takes fresh same =>
      subst takes
      refine ⟨events, ⟨fresh, List.prefix_refl _, ?_⟩, ?_⟩
      · intro between after before
        obtain rfl := before.eq_of_length_le after.length_le
        exact ⟨job, present, rfl⟩
      · rw [same]
        unfold Controller.job
        rw [attacher_run]
        exact Reconciliation.ofTask_warranted start.attacher _ job.task
    | answered request resume reply before _ same =>
      obtain ⟨earlier, taken, follows⟩ := inductionHypothesis _ before
      refine ⟨earlier, taken.concat ⟨job, present, rfl⟩, ?_⟩
      rw [same]
      exact follows.2 _

/-- What a controller asks has its reason in the caches of the moment in which a worker took the
name. -/
theorem exists_warrants_of_asked?
    {task : Task}
    {request : Request}
    (idle : start.term = none)
    (asked : (start.run events).asked? task = some request) :
    ∃ earlier, TakenAfter start earlier events task ∧
      (start.run earlier).caches.Warrants start.attacher task request := by
  obtain ⟨resume, present⟩ := exists_job_of_asked? asked
  obtain ⟨earlier, taken, follows⟩ := warranted_run idle _ present
  exact ⟨earlier, taken, follows.1⟩

end Controller

/-- A volume is read-only by its source, or by access modes that allow reading by many nodes and
nothing else. -/
theorem PersistentVolume.isReadOnly_iff {volume : PersistentVolume} {source : DriverSource} :
    volume.isReadOnly source = true ↔
      source.readOnly = true ∨
        volume.accessModes ≠ [] ∧ ∀ mode ∈ volume.accessModes, mode = "ReadOnlyMany" := by
  simp [PersistentVolume.isReadOnly]

namespace Controller

section Declarations

variable (services operations : List (Option Int32)) (driver : DriverName)
  (timeout retryStart retryMaximum : Duration) (workers : Nat) (isFeeding : Bool)

/-- The controller of a driver with these capabilities, before its first term. -/
def ofCapabilities (capabilities : Capabilities) : Controller :=
  .idle ⟨driver, .select capabilities, timeout⟩ retryStart retryMaximum workers isFeeding

/-- Whatever a driver declares and whatever happens, it is called only if it declares a controller
service that publishes volumes. It is asked to publish a volume for reading only exactly if it
declares that it honors this and the volume, as it was cached when a worker took the attachment, is
read-only. Nothing else that it declares matters: with other declarations that agree on the three
numbers the controller is the same. -/
theorem calls_follow_declarations :
    ∃ capabilities,
      Capabilities.declaredBy services operations = .ok capabilities ∧
      (let start := ofCapabilities driver timeout retryStart retryMaximum workers isFeeding
        capabilities
      (∀ events task request limit,
        (start.run events).asked? task = some (.publish request limit) →
          some 1 ∈ services ∧ some 2 ∈ operations ∧
          ∃ earlier attachment volume source, TakenAfter start earlier events task ∧
            (start.run earlier).caches.attachment? task.name = some attachment ∧
            Reconciliation.Targets start.attacher (start.run earlier).caches attachment volume
              source ∧
            request.volumeId = source.handle ∧
            (request.readOnly = true ↔
              some 8 ∈ operations ∧
              (source.readOnly = true ∨
                volume.accessModes ≠ [] ∧ ∀ mode ∈ volume.accessModes, mode = "ReadOnlyMany"))) ∧
      (∀ events task request limit,
        (start.run events).asked? task = some (.unpublish request limit) →
          some 1 ∈ services ∧ some 2 ∈ operations) ∧
      ∀ services' operations',
        (some 1 ∈ services' ↔ some 1 ∈ services) →
        (some 2 ∈ operations' ↔ some 2 ∈ operations) →
        (some 8 ∈ operations' ↔ some 8 ∈ operations) →
          ∃ capabilities',
            Capabilities.declaredBy services' operations' = .ok capabilities' ∧
            ofCapabilities driver timeout retryStart retryMaximum workers isFeeding
              capabilities' = start) := by
  obtain ⟨capabilities, declared, selected⟩ :=
    Capabilities.exists_select_of_declaredBy services operations
  refine ⟨capabilities, declared, ?_, ?_, ?_⟩
  · intro events task request limit asked
    obtain ⟨earlier, before, honorsReadOnly, attachment, volume, source, backed, cached, targets,
      same, readOnly⟩ := exists_warrants_of_asked? rfl asked
    have chosen := selected.symm.trans backed
    split at chosen
    · next publishes =>
      obtain ⟨hasService, hasOperation⟩ := publishes
      obtain rfl := Strategy.driverBacked.inj chosen
      refine ⟨hasService, hasOperation, earlier, attachment, volume, source, before, cached,
        targets, same, ?_⟩
      rw [readOnly, Bool.and_eq_true, PersistentVolume.isReadOnly_iff, decide_eq_true_iff,
        and_comm]
    · cases chosen
  · intro events task request limit asked
    obtain ⟨earlier, -, backed⟩ := exists_warrants_of_asked? rfl asked
    by_contra lacks
    exact backed (selected.trans (if_neg lacks))
  · intro services' operations' service operation flag
    obtain ⟨capabilities', declared', selected'⟩ :=
      Capabilities.exists_select_of_declaredBy services' operations'
    refine ⟨capabilities', declared', ?_⟩
    unfold ofCapabilities
    simp only [selected, selected', service, operation, flag]

end Declarations

/-- A volume that many nodes may read. -/
def archiveVolume : PersistentVolume :=
  { TimedController.boundVolume with
      spec := TimedController.boundVolume.spec.map fun spec =>
        { spec with accessModes := ["ReadOnlyMany"] } }

/-- All feeds list their objects, and a worker takes the attachment of the volume. -/
def archiveOpening : List ControllerEvent :=
  [.start, .changed (.attachments (.listed [TimedController.boundAttachment "1"])),
    .changed (.volumes (.listed [archiveVolume])), .changed (.nodes (.listed [])),
    .changed (.registrations (.listed [])), .ready, .take .attachment]

/-- What a driver answers that has a controller service and more. -/
def archiveServices : List (Option Int32) := [some 2, none, some 1, some (-1)]

/-- What a driver answers that publishes volumes, for reading only too, and more. -/
def archiveOperations : List (Option Int32) := [some 8, some 99, some 2, some 8]

/-- A driver that declares the three numbers is asked to publish a volume for reading only. -/
theorem readOnly_of_archive :
    ∃ capabilities request limit,
      Capabilities.declaredBy archiveServices archiveOperations = .ok capabilities ∧
      ((ofCapabilities History.hostPath.driver (.ofSeconds 15) (.ofSeconds 1) (.ofSeconds 300) 10
          true capabilities).run archiveOpening).asked? TimedController.boundTask =
        some (.publish request limit) ∧
      request.readOnly = true ∧
      some 1 ∈ archiveServices ∧ some 2 ∈ archiveOperations ∧ some 8 ∈ archiveOperations := by
  obtain ⟨capabilities, declared, publishes, -, -⟩ :=
    calls_follow_declarations archiveServices archiveOperations History.hostPath.driver
      (.ofSeconds 15) (.ofSeconds 1) (.ofSeconds 300) 10 true
  obtain ⟨other, declared', selected⟩ :=
    Capabilities.exists_select_of_declaredBy archiveServices archiveOperations
  obtain rfl : other = capabilities := Except.ok.inj (declared'.symm.trans declared)
  have asked : ∃ request limit,
      ((ofCapabilities History.hostPath.driver (.ofSeconds 15) (.ofSeconds 1) (.ofSeconds 300) 10
          true other).run archiveOpening).asked? TimedController.boundTask =
        some (.publish request limit) ∧ request.readOnly = true := by
    unfold ofCapabilities
    rw [selected]
    exact ⟨_, _, rfl, rfl⟩
  obtain ⟨request, limit, asked, readOnly⟩ := asked
  obtain ⟨service, operation, _, _, _, _, _, _, _, _, flag⟩ := publishes _ _ _ _ asked
  exact ⟨other, request, limit, declared, asked, readOnly, service, operation,
    (flag.mp readOnly).1⟩

end Controller

end VolumeAttacher
