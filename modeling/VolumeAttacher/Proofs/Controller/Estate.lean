import VolumeAttacher.Proofs.Controller.Custody
import VolumeAttacher.Proofs.Controller.Life

/-!
# Volumes in use

A world with its volumes. An attachment whose volume the driver was asked to publish is stored, so
that its volume is in use and keeps the finalizer, if that was not being taken away already when the
attachment was taken up. This is kept by whatever happens to the controller, to an attachment and to
a volume.
-/

namespace VolumeAttacher

namespace World

variable {world : World} {event : ControllerEvent} {name : String} {incarnation : Nat}

/-- Only jobs of attachments work on one. -/
theorem eq_of_mem_takenBy {task : Task} {stored : Stored} (isTaken : stored ∈ world.takenBy task) :
    task = ⟨.attachment, task.name⟩ := by
  obtain ⟨subject, name⟩ := task
  cases subject with
  | attachment => rfl
  | volume => cases isTaken

theorem births_site (world : World) (event : ControllerEvent) (name : String) :
    (world.site event name).births = (world.sites name).births := by
  have heard : (world.heard event name).births = (world.sites name).births := by
    unfold World.heard
    split
    · split
      · split <;> rfl
      · rfl
    · rfl
  unfold World.site
  split
  · exact heard
  · exact heard

/-- What is outstanding after an event was so before, or is published by a job. -/
theorem mem_outstanding_site (isOut : incarnation ∈ (world.site event name).outstanding) :
    incarnation ∈ (world.sites name).outstanding ∨
      ∃ request, (world.controller.step event).1.asked? ⟨.attachment, name⟩ = some request ∧
        incarnation ∈ Site.published (world.taken name) request := by
  have heard (isOut : incarnation ∈ (world.heard event name).outstanding) :
      incarnation ∈ (world.sites name).outstanding := by
    unfold World.heard at isOut
    split at isOut
    · split at isOut
      · split at isOut
        · exact (List.mem_filter.mp isOut).1
        · exact isOut
      · exact isOut
    · exact isOut
  unfold World.site at isOut
  split at isOut
  · next request asked =>
    obtain published | before := List.mem_append.mp isOut
    · exact .inr ⟨request, asked, published⟩
    · exact .inl (heard before)
  · exact .inl (heard isOut)

end World

/-- The version of a volume on which a job works. -/
structure Basis where
  volume : String
  stored : Stored

/-- A version with the metadata of a volume. -/
def Stored.copyOf (stored : Stored) (volume : PersistentVolume) : Stored :=
  { stored with object := { stored.object with metadata := volume.metadata } }

theorem Stored.copyOf_eq_self
    {stored : Stored}
    {volume : PersistentVolume}
    (same : stored.object.metadata = volume.metadata) :
    stored.copyOf volume = stored := by
  rw [copyOf, ← same]

/-- The write of finalizers that a request for a version of a volume is. -/
def FinalizerWrite.ofVolume? (origin : Stored) : Request → Option FinalizerWrite
  | .addVolumeFinalizer volume added =>
    some ⟨origin.copyOf volume, .addToVolume volume, added, rfl⟩
  | .removeVolumeFinalizer volume removed =>
    some ⟨origin.copyOf volume, .removeFromVolume volume, removed, rfl⟩
  | _ => none

/-- The write that a job sends for the volume of a name. -/
def Job.write? (job : Job) (basis : Option Basis) (name : String) : Option FinalizerWrite :=
  match basis, job.rest with
  | some basis, .ask request _ =>
    if basis.volume = name then FinalizerWrite.ofVolume? basis.stored request else none
  | _, _ => none

/-- A world with its volumes. -/
structure Estate where
  world : World
  /-- What is on the server under each name of a volume. Only the metadata of a volume count. -/
  shelves : String → Site
  /-- The version of its volume on which the job of a task works. -/
  basis : Task → Option Basis
  /-- An attachment was taken up when the finalizer was being taken from its volume. -/
  late : String → Nat → Prop

namespace Estate

def attacher (estate : Estate) : Attacher := estate.world.controller.attacher

/-- The name of the volume that a task is about. -/
def volumeName (estate : Estate) (task : Task) : Option String :=
  match task.subject with
  | .attachment =>
    (estate.world.sites task.name).cached.bind (·.object.volumeFor estate.attacher.driver)
  | .volume => some task.name

/-- The cached version of the volume that a task is about. -/
def found (estate : Estate) (task : Task) : Option Basis :=
  (estate.volumeName task).bind fun volume => (estate.shelves volume).cached.map (Basis.mk volume)

/-- The version on which the job of a task works after an event: a job that begins works on what is
cached. -/
def taken (estate : Estate) (task : Task) : Option Basis :=
  if estate.world.controller.jobs.any fun job => job.task = task then estate.basis task
  else estate.found task

/-- The writes of finalizers that jobs have sent for a volume after an event. -/
def shelf (estate : Estate) (event : ControllerEvent) (name : String) : Site :=
  (estate.shelves name).dispatch
    ((estate.world.controller.step event).1.jobs.filterMap fun job =>
      job.write? (estate.taken job.task) name)

/-- An event begins a job for an attachment while the finalizer is being taken from the version of
its volume that is cached. -/
def ComesLate
    (estate : Estate)
    (event : ControllerEvent)
    (name : String)
    (incarnation : Nat) : Prop :=
  (∀ job ∈ estate.world.controller.jobs, job.task ≠ ⟨.attachment, name⟩) ∧
    (∃ job ∈ (estate.world.controller.step event).1.jobs, job.task = ⟨.attachment, name⟩) ∧
      (∃ stored ∈ (estate.world.sites name).cached, stored.incarnation = incarnation) ∧
        ∃ basis ∈ estate.found ⟨.attachment, name⟩,
          (estate.shelves basis.volume).Removing estate.attacher.finalizer
            basis.stored.incarnation

/-- The estate after an event that may move the caches on. -/
def after
    (estate : Estate)
    (event : ControllerEvent)
    (older olderVolumes : String → List (Option Stored)) : Estate where
  world := estate.world.after event older
  shelves name := (estate.shelf event name).forget (olderVolumes name)
  basis := estate.taken
  late name incarnation :=
    estate.late name incarnation ∨ estate.ComesLate event name incarnation

/-- A finalizer that the server says it added to a volume was added. -/
def Confirms (estate : Estate) : ControllerEvent → Prop
  | .answer task reply =>
    ∀ request ∈ estate.world.controller.asked? task, request.secures (reply request) = true →
      ∀ basis ∈ estate.basis task, ∀ write ∈ FinalizerWrite.ofVolume? basis.stored request,
        write ∈ (estate.shelves basis.volume).done
  | _ => True

/-- The cached volumes are those that were stored when the caches were up to date. -/
def Mirrors (estate : Estate) : Prop :=
  ∀ name, (estate.world.controller.caches.volume? name).map PersistentVolume.metadata =
    (estate.shelves name).cached.map (·.object.metadata)

/-- What happens in an estate. The caches never move backwards, and nobody changes what an
attachment is for. -/
inductive Step (finalizer : String) (estate : Estate) : Estate → Prop
  /-- Something happens to the controller. -/
  | event (event : ControllerEvent) (older olderVolumes : String → List (Option Stored))
      (confirms : estate.world.Confirms event)
      (confirmsVolumes : estate.Confirms event)
      (forgets : ∀ name, older name <+: (estate.world.sites name).older)
      (forgetsVolumes : ∀ name, olderVolumes name <+: (estate.shelves name).older)
      (mirrors : (estate.world.after event older).Mirrors)
      (mirrorsVolumes : (estate.after event older olderVolumes).Mirrors) :
    Step finalizer estate (estate.after event older olderVolumes)
  /-- Something happens to an attachment on the server. -/
  | attachment (name : String) (next : Site)
      (change : (estate.world.sites name).Change finalizer next)
      (purpose : (estate.world.sites name).KeepsPurpose next) :
    Step finalizer estate { estate with world := estate.world.withSite name next }
  /-- Something happens to a volume on the server. -/
  | volume (name : String) (next : Site)
      (change : (estate.shelves name).Change finalizer next) :
    Step finalizer estate { estate with shelves := Function.update estate.shelves name next }

/-- No job began yet, as when all feeds have listed their objects for the first time. Since they were
cached, no attachment changed what it is for and no volume lost the finalizer. What is outstanding is
cached, and its volume is stored and carries the finalizer. -/
structure Begins (attacher : Attacher) (estate : Estate) : Prop where
  world : estate.world.Reachable attacher
  idle : estate.world.controller.jobs = []
  steady : ∀ name, (estate.world.sites name).Steady attacher.driver
  guarded : ∀ name, (estate.shelves name).Guarded attacher.finalizer
  sent : ∀ name, (estate.shelves name).sent = []
  vacant : ∀ name, (estate.shelves name).outstanding = []
  mirrors : estate.Mirrors
  prompt : ∀ name incarnation, ¬ estate.late name incarnation
  housed : ∀ name incarnation, incarnation ∈ (estate.world.sites name).outstanding →
    ∃ volume kept, (estate.world.sites name).Lives attacher.driver volume incarnation ∧
      (estate.shelves volume).Holds attacher.finalizer kept

/-- The estates that come of one that begins. -/
def Reachable (attacher : Attacher) (estate : Estate) : Prop :=
  ∃ start, Begins attacher start ∧ Relation.ReflTransGen (Step attacher.finalizer) start estate

/-- An attachment, for as long as it lives, spares its volume the removal of the finalizer, unless
it came late. -/
def Spares
    (attacher : Attacher)
    (estate : Estate)
    (name : String)
    (incarnation : Nat)
    (volume : String)
    (kept : Nat) : Prop :=
  (estate.world.sites name).Settled attacher.driver volume incarnation ∧
    (¬ estate.late name incarnation →
      (estate.world.sites name).Lives attacher.driver volume incarnation →
        ¬ (estate.shelves volume).Removing attacher.finalizer kept)

/-- What a job may rely on that works on a version of a volume. -/
structure Supports
    (attacher : Attacher)
    (estate : Estate)
    (task : Task)
    (basis : Basis)
    (tenure : Tenure) : Prop where
  known : basis.stored ∈ (estate.shelves basis.volume).versions
  secured : tenure.secured = true →
    (estate.shelves basis.volume).Keeps attacher.finalizer basis.stored.incarnation
  spares : ∀ stored ∈ estate.world.heldBy task,
    estate.Spares attacher task.name stored.incarnation basis.volume basis.stored.incarnation

/-- A job keeps to the rules of its volume and may rely on what it has achieved. -/
def Covers (attacher : Attacher) (estate : Estate) (job : Job) : Prop :=
  ∃ free tenure,
    job.rest.Follows (Reconciliation.tenure attacher.finalizer
      ((estate.basis job.task).map (·.stored.object.metadata)) free) Reconciliation.Regardless
        tenure ∧
      ∀ basis ∈ estate.basis job.task, estate.Supports attacher job.task basis tenure

/-- Every volume is guarded, every job may rely on what it has achieved, and what is outstanding
keeps its volume. -/
structure Sound (attacher : Attacher) (estate : Estate) : Prop where
  world : estate.world.Sound attacher
  steady : ∀ name, (estate.world.sites name).Steady attacher.driver
  guarded : ∀ name, (estate.shelves name).Guarded attacher.finalizer
  vacant : ∀ name, (estate.shelves name).outstanding = []
  mirrors : estate.Mirrors
  recorded : ∀ job ∈ estate.world.controller.jobs, ∀ name,
    ∀ write ∈ job.write? (estate.basis job.task) name, write ∈ (estate.shelves name).sent
  covers : ∀ job ∈ estate.world.controller.jobs, estate.Covers attacher job
  housed : ∀ name incarnation, incarnation ∈ (estate.world.sites name).outstanding →
    ¬ estate.late name incarnation →
      ∃ volume kept, estate.Spares attacher name incarnation volume kept ∧
        (estate.shelves volume).Keeps attacher.finalizer kept

/-! ## The writes of a job -/

section Writes

variable {finalizer : String} {origin : Stored} {request : Request} {write : FinalizerWrite}
  {state : Tenure} {free : Bool} {job : Job} {basis : Option Basis} {name : String}

theorem exists_request_of_write
    (isWrite : write ∈ job.write? basis name) :
    ∃ origin request resume, basis = some ⟨name, origin⟩ ∧ job.rest = .ask request resume ∧
      write ∈ FinalizerWrite.ofVolume? origin request := by
  unfold Job.write? at isWrite
  split at isWrite
  · next basis request resume asks =>
    split at isWrite
    · next same =>
      subst same
      exact ⟨basis.stored, request, resume, rfl, asks, isWrite⟩
    · simp at isWrite
  · simp at isWrite

/-- A write is made from the version that a job works on. It takes the finalizer away only if that is
being deleted and free, and only as the first request. -/
theorem eq_origin_of_permitted
    (permitted : (Reconciliation.tenure finalizer (some origin.object.metadata) free).permits state
      request)
    (isWrite : write ∈ FinalizerWrite.ofVolume? origin request) :
    write.origin = origin ∧ (finalizer ∉ write.finalizers →
      origin.IsDoomed ∧ free = true ∧ state.begun = false) := by
  cases request with
  | addVolumeFinalizer volume added =>
    obtain ⟨same, rfl⟩ := permitted
    obtain rfl := Option.some.inj isWrite
    exact ⟨Stored.copyOf_eq_self (Option.some.inj same),
      fun removes => absurd (ClusterClient.mem_withFinalizer _ _) removes⟩
  | removeVolumeFinalizer volume removed =>
    obtain ⟨same, -, deleting, free, begun⟩ := permitted
    obtain rfl := Option.some.inj isWrite
    refine ⟨Stored.copyOf_eq_self (Option.some.inj same), fun _ => ⟨?_, free, begun⟩⟩
    unfold Stored.IsDoomed
    rwa [Option.some.inj same]
  | _ => cases isWrite

/-- Only a request to add the finalizer is confirmed as such. -/
theorem exists_write_of_secures
    {answer : request.Answer}
    (permitted : (Reconciliation.tenure finalizer (some origin.object.metadata) free).permits state
      request)
    (confirmed : request.secures answer = true) :
    ∃ write ∈ FinalizerWrite.ofVolume? origin request,
      finalizer ∈ write.finalizers ∧ write.origin = origin := by
  cases request with
  | addVolumeFinalizer volume added =>
    obtain ⟨same, rfl⟩ := permitted
    exact ⟨_, rfl, ClusterClient.mem_withFinalizer _ _, Stored.copyOf_eq_self (Option.some.inj same)⟩
  | _ => cases confirmed

end Writes

/-! ## What is cached -/

variable {attacher : Attacher} {estate : Estate} {event : ControllerEvent} {task : Task}

theorem taken_of_mem
    {job : Job}
    (present : job ∈ estate.world.controller.jobs)
    (about : job.task = task) :
    estate.taken task = estate.basis task :=
  if_pos (List.any_eq_true.mpr ⟨job, present, by simpa using about⟩)

theorem taken_of_fresh (fresh : ∀ other ∈ estate.world.controller.jobs, other.task ≠ task) :
    estate.taken task = estate.found task := by
  apply if_neg
  intro busy
  obtain ⟨other, present, same⟩ := List.any_eq_true.mp busy
  exact fresh other present (by simpa using same)

theorem exists_of_found {basis : Basis} (isFound : basis ∈ estate.found task) :
    estate.volumeName task = some basis.volume ∧
      (estate.shelves basis.volume).cached = some basis.stored := by
  obtain ⟨volume, named, isFound⟩ := Option.bind_eq_some_iff.mp isFound
  obtain ⟨stored, cached, rfl⟩ := Option.map_eq_some_iff.mp isFound
  exact ⟨named, cached⟩

namespace Sound

/-- A job that begins works on the volume as it is cached. -/
theorem volumeOf_eq (sound : estate.Sound attacher) (task : Task) :
    Reconciliation.volumeOf attacher estate.world.controller.caches task =
      (estate.found task).map (·.stored.object.metadata) := by
  have named : Reconciliation.volumeNameOf attacher estate.world.controller.caches task =
      estate.volumeName task := by
    obtain ⟨subject, name⟩ := task
    cases subject with
    | attachment =>
      simp only [Reconciliation.volumeNameOf, Estate.volumeName, sound.world.mirrors name,
        Estate.attacher, sound.world.settings]
      exact Option.bind_map
    | volume => rfl
  unfold Reconciliation.volumeOf Estate.found
  rw [named, Option.map_bind]
  congr 1
  funext volume
  rw [sound.mirrors volume]
  simp [Function.comp_def]

/-- A volume that nothing in the caches uses is not used by any attachment that lives. -/
theorem not_lives_of_free
    {volume : String}
    (sound : estate.Sound attacher)
    (free : Reconciliation.isFree attacher estate.world.controller.caches ⟨.volume, volume⟩ = true)
    (name : String)
    (incarnation : Nat) :
    ¬ (estate.world.sites name).Lives attacher.driver volume incarnation := by
  intro lives
  obtain ⟨stored, cached, -, refers⟩ := lives.cached
  have mirrored := sound.world.mirrors name
  rw [cached, Option.map_some] at mirrored
  have present := List.mem_of_find?_eq_some mirrored
  have unused : Reconciliation.isInUse attacher estate.world.controller.caches volume = false := by
    simpa [Reconciliation.isFree] using free
  have idle := List.any_eq_false.mp unused _ present
  exact idle (VolumeAttachment.volumeFor_eq_some_iff.mp refers)

/-- A job that begins keeps to the rules of its volume. -/
theorem follows_of_fresh
    {job : Job}
    (sound : estate.Sound attacher)
    (same : job = estate.world.controller.job job.task) :
    job.rest.Follows (Reconciliation.tenure attacher.finalizer
        ((estate.found job.task).map (·.stored.object.metadata))
        (Reconciliation.isFree attacher estate.world.controller.caches job.task))
      Reconciliation.Regardless
      ⟨(estate.found job.task).any (·.stored.object.metadata.hasFinalizer attacher.finalizer),
        false⟩ := by
  have follows := Reconciliation.ofTask_tenure attacher estate.world.controller.caches job.task
  rw [sound.volumeOf_eq, Option.any_map] at follows
  have rest : job.rest =
      (Reconciliation.ofTask attacher estate.world.controller.caches job.task).run :=
    sound.world.settings ▸ congrArg Job.rest same
  rw [rest]
  exact follows

/-- A write that a job has sent after an event was made from a known version. If it takes the
finalizer away and was not sent before, the volume is being deleted and no attachment that lives
uses it. -/
theorem write_after
    {job : Job}
    {name : String}
    {write : FinalizerWrite}
    (sound : estate.Sound attacher)
    (present : job ∈ (estate.world.controller.step event).1.jobs)
    (isWrite : write ∈ job.write? (estate.taken job.task) name) :
    write.origin ∈ (estate.shelves name).versions ∧
      (attacher.finalizer ∉ write.finalizers →
        (estate.shelves name).Removing attacher.finalizer write.origin.incarnation ∨
          (estate.shelves name).Doomed write.origin.incarnation ∧
            ∀ other incarnation,
              ¬ (estate.world.sites other).Lives attacher.driver name incarnation) := by
  cases sound.world.controller.origin present with
  | kept before waits =>
    rw [taken_of_mem before rfl] at isWrite
    have sent := sound.recorded job before name write isWrite
    exact ⟨(sound.guarded name).origin write sent, fun removes => .inl ⟨write, sent, removes, rfl⟩⟩
  | taken takes fresh same =>
    obtain ⟨origin, request, resume, isBasis, asks, made⟩ := exists_request_of_write isWrite
    rw [taken_of_fresh fresh] at isBasis
    have follows := sound.follows_of_fresh same
    rw [asks, isBasis] at follows
    obtain ⟨rfl, removal⟩ := eq_origin_of_permitted follows.1 made
    obtain ⟨named, cached⟩ := exists_of_found isBasis
    refine ⟨(sound.guarded name).known _ (cached ▸ List.getLast_mem (List.cons_ne_nil _ _)), ?_⟩
    intro removes
    obtain ⟨isDoomed, free, -⟩ := removal removes
    refine .inr ⟨(sound.guarded name).doomed_of_cached cached isDoomed, ?_⟩
    generalize job.task = task at named free
    obtain ⟨subject, volume⟩ := task
    cases subject with
    | attachment => cases free
    | volume =>
      obtain rfl : volume = name := Option.some.inj named
      exact sound.not_lives_of_free free
  | answered request resume reply before answers same =>
    obtain ⟨free, tenure, follows, supports⟩ := sound.covers _ before
    obtain ⟨origin, further, later, isBasis, asks, made⟩ := exists_request_of_write isWrite
    rw [taken_of_mem before rfl] at isBasis
    have follows := follows.2 (reply request)
    rw [← same, asks, isBasis] at follows
    obtain ⟨rfl, removal⟩ := eq_origin_of_permitted follows.1 made
    exact ⟨(supports _ isBasis).known, fun removes => absurd (removal removes).2.2 nofun⟩

theorem guarded_shelf (sound : estate.Sound attacher) (event : ControllerEvent) (name : String) :
    (estate.shelf event name).Guarded attacher.finalizer := by
  refine (sound.guarded name).dispatch ?_ ?_
  all_goals
    intro write sent
    obtain ⟨job, present, isWrite⟩ := List.mem_filterMap.mp sent
    obtain ⟨known, removal⟩ := sound.write_after present isWrite
  · exact known
  · intro removes
    refine ⟨?_, by simp [sound.vacant name]⟩
    obtain removing | ⟨doomed, -⟩ := removal removes
    · exact (sound.guarded name).doomed _ removing
    · exact doomed

/-- The finalizer is not taken from the volume of an attachment that lives. -/
theorem removing_of_shelf
    {name : String}
    {kept : Nat}
    (sound : estate.Sound attacher)
    (removing : (estate.shelf event name).Removing attacher.finalizer kept) :
    (estate.shelves name).Removing attacher.finalizer kept ∨
      ∀ other incarnation, ¬ (estate.world.sites other).Lives attacher.driver name incarnation := by
  obtain ⟨write, sent, removes, rfl⟩ | before := Site.removing_dispatch.mp removing
  · obtain ⟨job, present, isWrite⟩ := List.mem_filterMap.mp sent
    obtain ⟨-, removal⟩ := sound.write_after present isWrite
    exact (removal removes).imp_right And.right
  · exact .inl before

end Sound

/-! ## Events -/

section Event

variable {older olderVolumes : String → List (Option Stored)} {name volume : String}
  {incarnation kept : Nat}

theorem Sound.spares_after
    (sound : estate.Sound attacher)
    (forgets : ∀ name, older name <+: (estate.world.sites name).older)
    (settled : (estate.world.sites name).Settled attacher.driver volume incarnation)
    (spares : ¬ (estate.after event older olderVolumes).late name incarnation →
      (estate.world.sites name).Lives attacher.driver volume incarnation →
        ¬ (estate.shelves volume).Removing attacher.finalizer kept) :
    (estate.after event older olderVolumes).Spares attacher name incarnation volume kept := by
  have states := estate.world.states_site event name
  have forgets : older name <+: (estate.world.site event name).older :=
    (List.cons.inj states).2 ▸ forgets name
  refine ⟨(settled.congr states (World.births_site _ _ _)).forget forgets, ?_⟩
  intro inTime livesAfter removing
  have lives : (estate.world.sites name).Lives attacher.driver volume incarnation := by
    obtain ⟨stored, present, rfl, -⟩ := livesAfter.present
    exact settled.lives_of_present ((List.cons.inj states).1.symm.trans present)
  obtain before | free := sound.removing_of_shelf removing
  · exact spares inTime lives before
  · exact free name incarnation lives

theorem Spares.after
    (spares : estate.Spares attacher name incarnation volume kept)
    (sound : estate.Sound attacher)
    (forgets : ∀ name, older name <+: (estate.world.sites name).older) :
    (estate.after event older olderVolumes).Spares attacher name incarnation volume kept :=
  sound.spares_after forgets spares.1 fun inTime => spares.2 fun late => inTime (.inl late)

/-- Every job after an event may rely on what it has achieved so far. -/
theorem Sound.covers_after
    {job : Job}
    (sound : estate.Sound attacher)
    (confirms : estate.Confirms event)
    (forgets : ∀ name, older name <+: (estate.world.sites name).older)
    (present : job ∈ (estate.world.controller.step event).1.jobs) :
    (estate.after event older olderVolumes).Covers attacher job := by
  have held : (estate.after event older olderVolumes).world.heldBy job.task =
      estate.world.takenBy job.task := rfl
  cases sound.world.controller.origin present with
  | kept before waits =>
    obtain ⟨free, tenure, follows, supports⟩ := sound.covers job before
    have basis : (estate.after event older olderVolumes).basis job.task =
        estate.basis job.task := taken_of_mem before rfl
    unfold Covers
    rw [basis]
    refine ⟨free, tenure, follows, fun basis isBasis => ?_⟩
    have supported := supports basis isBasis
    refine ⟨supported.known, fun secured => (supported.secured secured).dispatch, ?_⟩
    intro stored isHeld
    rw [held, World.takenBy_of_mem before] at isHeld
    exact (supported.spares stored isHeld).after sound forgets
  | taken takes fresh same =>
    have basis : (estate.after event older olderVolumes).basis job.task =
        estate.found job.task := taken_of_fresh fresh
    unfold Covers
    rw [basis]
    refine ⟨_, _, sound.follows_of_fresh same, fun basis isBasis => ?_⟩
    obtain ⟨named, cached⟩ := exists_of_found isBasis
    have isState : some basis.stored ∈ (estate.shelves basis.volume).states :=
      cached ▸ List.getLast_mem (List.cons_ne_nil _ _)
    refine ⟨(sound.guarded _).known _ isState, ?_, ?_⟩
    · intro secured
      rw [Option.mem_def.mp isBasis] at secured
      exact ((sound.guarded _).finalized _ isState secured).dispatch
    · intro stored isHeld
      have isCached := (World.takenBy_of_fresh sound.world.mirrors fresh).2 stored isHeld
      have about := World.eq_of_mem_takenBy isHeld
      have refers : stored.object.volumeFor attacher.driver = some basis.volume := by
        rw [about, Estate.volumeName] at named
        simpa [isCached, Estate.attacher, sound.world.settings] using named
      have settled := (sound.steady job.task.name).settled_of_cached isCached refers
      refine sound.spares_after forgets settled fun inTime _ removing => inTime (.inr ?_)
      unfold ComesLate
      rw [← about]
      exact ⟨fresh, ⟨job, present, rfl⟩, ⟨stored, isCached, rfl⟩, basis, isBasis,
        by rwa [Estate.attacher, sound.world.settings]⟩
  | answered request resume reply before answers same =>
    obtain ⟨free, tenure, follows, supports⟩ := sound.covers _ before
    have asked := sound.world.controller.asked?_eq before
    have basis : (estate.after event older olderVolumes).basis job.task =
        estate.basis job.task := taken_of_mem before rfl
    unfold Covers
    rw [basis]
    refine ⟨free, _, same ▸ follows.2 (reply request), fun basis isBasis => ?_⟩
    have supported := supports basis isBasis
    refine ⟨supported.known, ?_, ?_⟩
    · intro secured
      obtain already | confirmed := Bool.or_eq_true_iff.mp secured
      · exact (supported.secured already).dispatch
      · have permitted := follows.1
        rw [show estate.basis job.task = some basis from isBasis] at permitted
        obtain ⟨write, isWrite, adds, origin⟩ := exists_write_of_secures permitted confirmed
        rw [answers] at confirms
        have done := confirms request asked confirmed basis isBasis write isWrite
        rw [← origin]
        exact ((sound.guarded basis.volume).done write done adds).dispatch
    · intro stored isHeld
      rw [held, World.takenBy_of_mem before] at isHeld
      exact (supported.spares stored isHeld).after sound forgets

/-- What is outstanding after an event keeps its volume. -/
theorem Sound.housed_after
    (sound : estate.Sound attacher)
    (confirms : estate.Confirms event)
    (forgets : ∀ name, older name <+: (estate.world.sites name).older)
    (isOut : incarnation ∈ ((estate.after event older olderVolumes).world.sites name).outstanding)
    (inTime : ¬ (estate.after event older olderVolumes).late name incarnation) :
    ∃ volume kept,
      (estate.after event older olderVolumes).Spares attacher name incarnation volume kept ∧
        ((estate.after event older olderVolumes).shelves volume).Keeps attacher.finalizer kept := by
  obtain before | ⟨request, asked, published⟩ := World.mem_outstanding_site isOut
  · obtain ⟨volume, kept, spares, keeps⟩ :=
      sound.housed name incarnation before fun late => inTime (.inl late)
    exact ⟨volume, kept, spares.after sound forgets, keeps.dispatch⟩
  · obtain ⟨resume, present⟩ := Controller.exists_job_of_asked? asked
    obtain ⟨free, tenure, follows, supports⟩ :
        (estate.after event older olderVolumes).Covers attacher _ :=
      sound.covers_after confirms forgets present
    cases request with
    | publish request timeout =>
      obtain ⟨known, secured⟩ := follows.1
      rw [Option.isSome_map] at known
      obtain ⟨basis, isBasis⟩ := Option.isSome_iff_exists.mp known
      have supported := supports basis isBasis
      obtain ⟨stored, isTaken, rfl⟩ : ∃ stored, estate.world.taken name = some stored ∧
          stored.incarnation = incarnation := by
        simpa [Site.published] using published
      exact ⟨basis.volume, basis.stored.incarnation, supported.spares stored isTaken,
        supported.secured secured⟩
    | _ => simp [Site.published] at published

/-- An estate stays sound whatever happens to the controller. -/
theorem Sound.after
    (sound : estate.Sound attacher)
    (confirms : estate.world.Confirms event)
    (confirmsVolumes : estate.Confirms event)
    (forgets : ∀ name, older name <+: (estate.world.sites name).older)
    (forgetsVolumes : ∀ name, olderVolumes name <+: (estate.shelves name).older)
    (mirrors : (estate.world.after event older).Mirrors)
    (mirrorsVolumes : (estate.after event older olderVolumes).Mirrors) :
    (estate.after event older olderVolumes).Sound attacher where
  world := sound.world.after confirms forgets mirrors
  steady name := by
    have states := estate.world.states_site event name
    have forgets : older name <+: (estate.world.site event name).older :=
      (List.cons.inj states).2 ▸ forgets name
    exact ((sound.steady name).congr states (World.births_site _ _ _)).forget forgets
  guarded name := (sound.guarded_shelf event name).forget (forgetsVolumes name)
  vacant := sound.vacant
  mirrors := mirrorsVolumes
  recorded job present name write isWrite :=
    List.mem_append_left _ (List.mem_filterMap.mpr ⟨job, present, isWrite⟩)
  covers _ present := sound.covers_after confirmsVolumes forgets present
  housed _ _ isOut inTime := sound.housed_after confirmsVolumes forgets isOut inTime

end Event

/-! ## The server -/

section Server

variable {name : String} {next : Site}

/-- An estate stays sound whatever happens to an attachment on the server. -/
theorem Sound.attachment
    (sound : estate.Sound attacher)
    (change : (estate.world.sites name).Change attacher.finalizer next)
    (purpose : (estate.world.sites name).KeepsPurpose next) :
    Sound attacher { estate with world := estate.world.withSite name next } := by
  obtain ⟨new, succeeds⟩ := change.succeeds (sound.world.guarded name)
  have moves (other : String) :
      (estate.world.withSite name next).sites other = estate.world.sites other ∨
        other = name ∧ (estate.world.withSite name next).sites other = next := by
    by_cases same : other = name
    · subst same
      exact .inr ⟨rfl, Function.update_self _ _ _⟩
    · exact .inl (Function.update_of_ne same _ _)
  have spared {other : String} {incarnation : Nat} {volume : String} {kept : Nat}
      (spares : estate.Spares attacher other incarnation volume kept) :
      Spares attacher { estate with world := estate.world.withSite name next } other incarnation
        volume kept := by
    unfold Spares
    dsimp only
    obtain same | ⟨rfl, same⟩ := moves other
    · rw [same]
      exact spares
    · rw [same]
      refine ⟨succeeds.settled (sound.world.guarded other) purpose spares.1, ?_⟩
      intro inTime lives
      obtain ⟨stored, present, born, -⟩ := Site.Lives.present lives
      exact spares.2 inTime (spares.1.resolve_right fun gone =>
        (succeeds.gone gone).2 stored present born)
  refine ⟨sound.world.server change, ?_, sound.guarded, sound.vacant, sound.mirrors,
    sound.recorded, ?_, ?_⟩
  · intro other
    dsimp only
    obtain same | ⟨rfl, same⟩ := moves other
    · rw [same]
      exact sound.steady other
    · rw [same]
      exact succeeds.steady (sound.world.guarded other) purpose (sound.steady other)
  · intro job present
    obtain ⟨free, tenure, follows, supports⟩ := sound.covers job present
    refine ⟨free, tenure, follows, fun basis isBasis => ?_⟩
    have supported := supports basis isBasis
    exact ⟨supported.known, supported.secured,
      fun stored isHeld => spared (supported.spares stored isHeld)⟩
  · intro other incarnation isOut inTime
    have before : incarnation ∈ (estate.world.sites other).outstanding := by
      dsimp only at isOut
      obtain same | ⟨rfl, same⟩ := moves other
      · rwa [same] at isOut
      · rwa [same, succeeds.outstanding] at isOut
    obtain ⟨volume, kept, spares, keeps⟩ := sound.housed other incarnation before inTime
    exact ⟨volume, kept, spared spares, keeps⟩

/-- An estate stays sound whatever happens to a volume on the server. -/
theorem Sound.volume
    (sound : estate.Sound attacher)
    (change : (estate.shelves name).Change attacher.finalizer next) :
    Sound attacher { estate with shelves := Function.update estate.shelves name next } := by
  obtain ⟨new, succeeds⟩ := change.succeeds (sound.guarded name)
  have moves (other : String) :
      Function.update estate.shelves name next other = estate.shelves other ∨
        (estate.shelves other).Succeeds attacher.finalizer new
          (Function.update estate.shelves name next other) := by
    by_cases same : other = name
    · subst same
      rw [Function.update_self]
      exact .inr succeeds
    · exact .inl (Function.update_of_ne same _ _)
  have keeps {other : String} {kept : Nat}
      (keeps : (estate.shelves other).Keeps attacher.finalizer kept) :
      (Function.update estate.shelves name next other).Keeps attacher.finalizer kept := by
    obtain same | succeeds := moves other
    · rwa [same]
    · exact succeeds.keeps keeps
  have sent (other : String) :
      (Function.update estate.shelves name next other).sent = (estate.shelves other).sent := by
    obtain same | succeeds := moves other
    · rw [same]
    · exact succeeds.sent
  have spared {other : String} {incarnation : Nat} {volume : String} {kept : Nat}
      (spares : estate.Spares attacher other incarnation volume kept) :
      Spares attacher { estate with shelves := Function.update estate.shelves name next } other
        incarnation volume kept := by
    refine ⟨spares.1, fun inTime lives removing => spares.2 inTime lives ?_⟩
    unfold Site.Removing at removing ⊢
    rwa [sent] at removing
  refine ⟨sound.world, sound.steady, ?_, ?_, ?_, ?_, ?_, ?_⟩
  · intro other
    dsimp only
    obtain same | succeeds := moves other
    · rw [same]
      exact sound.guarded other
    · exact succeeds.guarded (sound.guarded other)
  · intro other
    dsimp only
    obtain same | succeeds := moves other
    · rw [same]
      exact sound.vacant other
    · exact succeeds.outstanding.trans (sound.vacant other)
  · intro other
    have cached : (Function.update estate.shelves name next other).cached =
        (estate.shelves other).cached := by
      obtain same | succeeds := moves other
      · rw [same]
      · exact succeeds.cached_eq
    dsimp only
    rw [cached]
    exact sound.mirrors other
  · intro job present other write isWrite
    dsimp only
    rw [sent]
    exact sound.recorded job present other write isWrite
  · intro job present
    obtain ⟨free, tenure, follows, supports⟩ := sound.covers job present
    refine ⟨free, tenure, follows, fun basis isBasis => ?_⟩
    have supported := supports basis isBasis
    refine ⟨?_, fun secured => keeps (supported.secured secured),
      fun stored isHeld => spared (supported.spares stored isHeld)⟩
    dsimp only
    obtain same | succeeds := moves basis.volume
    · rw [same]
      exact supported.known
    · exact succeeds.versions ▸ List.mem_cons_of_mem _ supported.known
  · intro other incarnation isOut inTime
    obtain ⟨volume, kept, spares, kept'⟩ := sound.housed other incarnation isOut inTime
    exact ⟨volume, kept, spared spares, keeps kept'⟩

end Server

theorem Sound.step
    {next : Estate}
    (sound : estate.Sound attacher)
    (step : Step attacher.finalizer estate next) :
    next.Sound attacher := by
  cases step with
  | event event older olderVolumes confirms confirmsVolumes forgets forgetsVolumes mirrors
      mirrorsVolumes =>
    exact sound.after confirms confirmsVolumes forgets forgetsVolumes mirrors mirrorsVolumes
  | attachment name next change purpose => exact sound.attachment change purpose
  | volume name next change => exact sound.volume change

/-- An estate that begins is sound. -/
theorem Begins.sound (begins : estate.Begins attacher) : estate.Sound attacher where
  world := begins.world.sound
  steady := begins.steady
  guarded := begins.guarded
  vacant := begins.vacant
  mirrors := begins.mirrors
  recorded job present := by simp [begins.idle] at present
  covers job present := by simp [begins.idle] at present
  housed name incarnation isOut _ := by
    obtain ⟨volume, kept, lives, holds⟩ := begins.housed name incarnation isOut
    refine ⟨volume, kept, ⟨.inl lives, fun _ _ => ?_⟩, .inr holds⟩
    simp [Site.Removing, begins.sent]

theorem Reachable.sound (reachable : Reachable attacher estate) : estate.Sound attacher := by
  obtain ⟨start, begins, run⟩ := reachable
  induction run with
  | refl => exact begins.sound
  | tail _ step sound => exact sound.step step

end Estate

end VolumeAttacher
