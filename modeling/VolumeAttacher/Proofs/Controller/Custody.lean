import Mathlib.Logic.Function.Basic
import Mathlib.Logic.Relation
import VolumeAttacher.Proofs.Controller.Backoff
import VolumeAttacher.Proofs.Controller.Site

/-!
# No attachment is lost

A controller and the server that it works with. The controller acts on caches that are behind, any
request may fail with or without having taken effect, and others create, change and delete
attachments meanwhile. Still an attachment whose volume the driver was asked to publish stays on the
server with the finalizer until the driver has withdrawn the volume.
-/

namespace VolumeAttacher

/-- The request for which the job of a task waits. -/
def Controller.asked? (controller : Controller) (task : Task) : Option Request :=
  match controller.jobs.find? fun job => job.task = task with
  | some ⟨_, .ask request _⟩ => some request
  | _ => none

namespace Controller

variable {controller : Controller} {task : Task}

theorem exists_job_of_asked?
    {request : Request}
    (asked : controller.asked? task = some request) :
    ∃ resume, ⟨task, .ask request resume⟩ ∈ controller.jobs := by
  unfold asked? at asked
  split at asked
  · next about other resume found =>
    obtain rfl := Option.some.inj asked
    obtain rfl : about = task := by simpa using List.find?_some found
    exact ⟨resume, List.mem_of_find?_eq_some found⟩
  · cases asked

theorem Sound.asked?_eq
    {request : Request}
    {resume : request.Answer → Dialogue Request Request.Answer (Except Fault Unit)}
    (sound : controller.Sound)
    (present : ⟨task, .ask request resume⟩ ∈ controller.jobs) :
    controller.asked? task = some request := by
  cases running : controller.term with
  | none => simp [jobs_of_idle running] at present
  | some term =>
    rw [jobs_of_running running] at present
    unfold asked?
    rw [jobs_of_running running, (sound term running).find?_eq present]

/-- There is one job of a task. -/
theorem Sound.eq_of_task_eq
    {first second : Job}
    (sound : controller.Sound)
    (one : first ∈ controller.jobs)
    (two : second ∈ controller.jobs)
    (same : first.task = second.task) :
    first = second := by
  cases running : controller.term with
  | none => simp [jobs_of_idle running] at one
  | some term =>
    rw [jobs_of_running running] at one two
    exact (sound term running).eq_of_task_eq one two same

end Controller

/-- A controller, the attachments on the server, and on which versions of them jobs work. -/
structure World where
  controller : Controller
  /-- What is on the server under each name. -/
  sites : String → Site
  /-- The version on which the job of a name works. -/
  held : String → Option Stored

namespace World

/-- The version on which the job of a name works after an event: a job that begins works on what is
cached. -/
def taken (world : World) (name : String) : Option Stored :=
  if world.controller.jobs.any fun job => job.task = ⟨.attachment, name⟩ then world.held name
  else (world.sites name).cached

/-- The site of a name after what an event answers. -/
def heard (world : World) (event : ControllerEvent) (name : String) : Site :=
  match event with
  | .answer task reply =>
    if task = ⟨.attachment, name⟩ then
      match world.controller.asked? task with
      | some request => (world.sites name).hear (world.held name) request (reply request)
      | none => world.sites name
    else world.sites name
  | _ => world.sites name

/-- The site of a name after an event. -/
def site (world : World) (event : ControllerEvent) (name : String) : Site :=
  match (world.controller.step event).1.asked? ⟨.attachment, name⟩ with
  | some request => (world.heard event name).ask (world.taken name) request
  | none => world.heard event name

/-- The world after an event that may move the caches on. -/
def after
    (world : World)
    (event : ControllerEvent)
    (older : String → List (Option Stored)) : World where
  controller := (world.controller.step event).1
  sites name := (world.site event name).forget (older name)
  held := world.taken

/-- A finalizer that the server says it added was added. -/
def Confirms (world : World) : ControllerEvent → Prop
  | .answer task reply =>
    ∀ request ∈ world.controller.asked? task, request.finalizes (reply request) = true →
      ∀ write ∈ FinalizerWrite.ofRequest? (world.held task.name) request,
        write ∈ (world.sites task.name).done
  | _ => True

/-- The cached attachments are those that were stored when the caches were up to date. -/
def Mirrors (world : World) : Prop :=
  ∀ name, world.controller.caches.attachment? name =
    (world.sites name).cached.map Stored.object

/-- The world with another site of a name. -/
def withSite (world : World) (name : String) (site : Site) : World :=
  { world with sites := Function.update world.sites name site }

/-- What happens in a world. The caches never move backwards. -/
inductive Step (finalizer : String) (world : World) : World → Prop
  /-- Something happens to the controller. -/
  | event (event : ControllerEvent) (older : String → List (Option Stored))
      (confirms : world.Confirms event)
      (forgets : ∀ name, older name <+: (world.sites name).older)
      (mirrors : (world.after event older).Mirrors) :
    Step finalizer world (world.after event older)
  /-- Something happens on the server. -/
  | server (name : String) (next : Site)
      (change : (world.sites name).Change finalizer next) :
    Step finalizer world (world.withSite name next)

/-- The controller is before its first term, and nothing is cached. -/
structure Begins (attacher : Attacher) (world : World) : Prop where
  idle : ∃ retryStart retryMaximum workers isFeeding,
    world.controller = .idle attacher retryStart retryMaximum workers isFeeding
  sites : ∀ name, (world.sites name).Begins attacher.finalizer

/-- The worlds that come of one that begins. -/
def Reachable (attacher : Attacher) (world : World) : Prop :=
  ∃ start, Begins attacher start ∧ Relation.ReflTransGen (Step attacher.finalizer) start world

/-- The version on which the job of a task works. -/
def heldBy (world : World) (task : Task) : Option Stored :=
  match task.subject with
  | .attachment => world.held task.name
  | .volume => none

/-- A job keeps to the order and may rely on what it has achieved. -/
def Covers (finalizer : String) (site : Site) (held : Option Stored) (job : Job) : Prop :=
  ∃ custody, job.rest.Follows (Reconciliation.custody finalizer (held.map Stored.object))
      Reconciliation.Whatever custody ∧
    ∀ stored ∈ held, site.Guards finalizer stored custody

/-- Every attachment is guarded, and every job may rely on what it has achieved. -/
structure Sound (attacher : Attacher) (world : World) : Prop where
  settings : world.controller.attacher = attacher
  controller : world.controller.Sound
  mirrors : world.Mirrors
  guarded : ∀ name, (world.sites name).Guarded attacher.finalizer
  covers : ∀ job ∈ world.controller.jobs,
    Covers attacher.finalizer (world.sites job.task.name) (world.heldBy job.task) job

variable {attacher : Attacher} {world : World} {event : ControllerEvent}

/-- The version on which the job of a task works after an event. -/
def takenBy (world : World) (task : Task) : Option Stored :=
  match task.subject with
  | .attachment => world.taken task.name
  | .volume => none

/-- A job that goes on works on the same version. -/
theorem takenBy_of_mem {job : Job} (present : job ∈ world.controller.jobs) :
    world.takenBy job.task = world.heldBy job.task := by
  obtain ⟨⟨subject, name⟩, rest⟩ := job
  cases subject with
  | attachment =>
    refine if_pos (List.any_eq_true.mpr ⟨_, present, ?_⟩)
    simp
  | volume => rfl

/-- A job that begins works on what is cached. -/
theorem takenBy_of_fresh
    {task : Task}
    (mirrors : world.Mirrors)
    (fresh : ∀ other ∈ world.controller.jobs, other.task ≠ task) :
    Reconciliation.snapshotOf world.controller.caches task =
        (world.takenBy task).map Stored.object ∧
      ∀ stored ∈ world.takenBy task, (world.sites task.name).cached = some stored := by
  obtain ⟨subject, name⟩ := task
  cases subject with
  | attachment =>
    have cached : world.takenBy ⟨.attachment, name⟩ = (world.sites name).cached := by
      apply if_neg
      intro busy
      obtain ⟨other, present, same⟩ := List.any_eq_true.mp busy
      exact fresh other present (by simpa using same)
    rw [cached]
    exact ⟨mirrors name, fun stored isCached => isCached⟩
  | volume => exact ⟨rfl, nofun⟩

/-- Only the answer to the job of a name matters to its site. -/
theorem heard_of_not_answers
    {name : String}
    (other : ∀ reply, event ≠ .answer ⟨.attachment, name⟩ reply) :
    world.heard event name = world.sites name := by
  unfold heard
  split
  · next task reply =>
    apply if_neg
    intro same
    exact other reply (congrArg (ControllerEvent.answer · reply) same)
  · rfl

theorem heard_of_asked
    {task : Task}
    {name : String}
    {request : Request}
    (about : task = ⟨.attachment, name⟩)
    (asked : world.controller.asked? task = some request)
    (reply : (request : Request) → request.Answer) :
    world.heard (.answer task reply) name =
      (world.sites name).hear (world.held name) request (reply request) := by
  unfold heard
  dsimp only
  rw [if_pos about, asked]

theorem states_heard (world : World) (event : ControllerEvent) (name : String) :
    (world.heard event name).states = (world.sites name).states := by
  unfold heard
  split
  · split
    · split <;> rfl
    · rfl
  · rfl

/-- Nothing on the server changes with the controller. -/
theorem states_site (world : World) (event : ControllerEvent) (name : String) :
    (world.site event name).states = (world.sites name).states := by
  unfold site
  split
  · exact world.states_heard event name
  · exact world.states_heard event name

theorem states_after
    (world : World)
    (event : ControllerEvent)
    (older : String → List (Option Stored))
    (name : String) :
    ((world.after event older).sites name).states = (world.sites name).present :: older name :=
  congrArg (List.cons · (older name)) (List.cons.inj (world.states_site event name)).1

/-- Only jobs of attachments work on one. -/
theorem eq_of_mem_heldBy {task : Task} {stored : Stored} (isHeld : stored ∈ world.heldBy task) :
    task = ⟨.attachment, task.name⟩ := by
  obtain ⟨subject, name⟩ := task
  cases subject with
  | attachment => rfl
  | volume => cases isHeld

namespace Sound

/-- Every job after an event may rely on what it has achieved so far. -/
theorem covers_heard
    {job : Job}
    (sound : world.Sound attacher)
    (confirms : world.Confirms event)
    (present : job ∈ (world.controller.step event).1.jobs) :
    Covers attacher.finalizer (world.heard event job.task.name) (world.takenBy job.task) job := by
  cases sound.controller.origin present with
  | kept before waits =>
    obtain ⟨custody, follows, guards⟩ := sound.covers job before
    rw [takenBy_of_mem before]
    refine ⟨custody, follows, ?_⟩
    intro stored isHeld
    rw [heard_of_not_answers (eq_of_mem_heldBy isHeld ▸ waits)]
    exact guards stored isHeld
  | taken takes fresh same =>
    obtain ⟨snapshot, cached⟩ := takenBy_of_fresh sound.mirrors fresh
    have follows := Reconciliation.ofTask_custody attacher world.controller.caches job.task
    rw [snapshot] at follows
    have rest : job.rest =
        (Reconciliation.ofTask attacher world.controller.caches job.task).run :=
      sound.settings ▸ congrArg Job.rest same
    unfold Covers
    rw [rest]
    refine ⟨_, follows, ?_⟩
    intro stored isTaken
    rw [heard_of_not_answers (by simp [takes]), Option.mem_def.mp isTaken]
    exact (sound.guarded _).guards_of_cached (cached stored isTaken)
  | answered request resume reply before answers same =>
    obtain ⟨custody, follows, guards⟩ := sound.covers _ before
    have asked := sound.controller.asked?_eq before
    rw [takenBy_of_mem before]
    refine ⟨_, same ▸ follows.2 (reply request), ?_⟩
    intro stored isHeld
    have about : job.task = ⟨.attachment, job.task.name⟩ := eq_of_mem_heldBy isHeld
    have held : world.held job.task.name = some stored := by
      rw [about] at isHeld
      exact isHeld
    rw [answers, heard_of_asked about asked reply, held, Option.mem_def.mp isHeld]
    refine (guards stored isHeld).hear (sound.guarded _) ?_ ?_
    · have permitted := follows.1
      rwa [isHeld] at permitted
    · intro confirmed write isWrite
      rw [answers] at confirms
      exact confirms request asked confirmed write (held ▸ isWrite)

theorem guarded_heard (sound : world.Sound attacher) (name : String) :
    (world.heard event name).Guarded attacher.finalizer := by
  unfold World.heard
  split
  · split
    · split
      · exact (sound.guarded name).hear
      · exact sound.guarded name
    · exact sound.guarded name
  · exact sound.guarded name

/-- The request for which a job waits after an event was permitted. -/
theorem guarded_site
    (sound : world.Sound attacher)
    (confirms : world.Confirms event)
    (name : String) :
    (world.site event name).Guarded attacher.finalizer ∧
      ∀ job ∈ (world.controller.step event).1.jobs, job.task = ⟨.attachment, name⟩ →
        Covers attacher.finalizer (world.site event name) (world.taken name) job := by
  have covers (job : Job) (present : job ∈ (world.controller.step event).1.jobs)
      (about : job.task = ⟨.attachment, name⟩) :
      Covers attacher.finalizer (world.heard event name) (world.taken name) job := by
    have covered := sound.covers_heard confirms present
    rw [about] at covered
    exact covered
  unfold World.site
  cases asked : (world.controller.step event).1.asked? ⟨.attachment, name⟩ with
  | none => exact ⟨sound.guarded_heard name, covers⟩
  | some request =>
    obtain ⟨resume, present⟩ := Controller.exists_job_of_asked? asked
    obtain ⟨custody, follows, guards⟩ := covers _ present rfl
    obtain ⟨guarded, guards⟩ := (sound.guarded_heard name).ask guards follows.1
    refine ⟨guarded, fun job isJob about => ⟨custody, ?_, guards⟩⟩
    rw [(sound.controller.step event).eq_of_task_eq isJob present about]
    exact follows

/-- A world stays sound whatever happens to the controller. -/
theorem after
    {older : String → List (Option Stored)}
    (sound : world.Sound attacher)
    (confirms : world.Confirms event)
    (forgets : ∀ name, older name <+: (world.sites name).older)
    (mirrors : (world.after event older).Mirrors) :
    (world.after event older).Sound attacher := by
  have forgets (name : String) : older name <+: (world.site event name).older :=
    (List.cons.inj (world.states_site event name)).2 ▸ forgets name
  refine ⟨?_, sound.controller.step event, mirrors, ?_, ?_⟩
  · exact (world.controller.attacher_step event).trans sound.settings
  · intro name
    exact (sound.guarded_site confirms name).1.forget (forgets name)
  · intro job present
    obtain ⟨⟨subject, name⟩, rest⟩ := job
    cases subject with
    | attachment =>
      obtain ⟨custody, follows, guards⟩ := (sound.guarded_site confirms name).2 _ present rfl
      exact ⟨custody, follows, fun stored isHeld => (guards stored isHeld).forget (forgets name)⟩
    | volume =>
      obtain ⟨custody, follows, -⟩ := sound.covers_heard confirms present
      exact ⟨custody, follows, nofun⟩

/-- A world stays sound whatever happens on the server. -/
theorem server
    {name : String}
    {next : Site}
    (sound : world.Sound attacher)
    (change : (world.sites name).Change attacher.finalizer next) :
    (world.withSite name next).Sound attacher := by
  obtain ⟨new, succeeds⟩ := change.succeeds (sound.guarded name)
  have moves (other : String) : (world.withSite name next).sites other = world.sites other ∨
      (world.sites other).Succeeds attacher.finalizer new
        ((world.withSite name next).sites other) := by
    by_cases same : other = name
    · subst same
      have stored : (world.withSite other next).sites other = next := Function.update_self _ _ _
      rw [stored]
      exact .inr succeeds
    · exact .inl (Function.update_of_ne same _ _)
  refine ⟨sound.settings, sound.controller, ?_, ?_, ?_⟩
  · intro other
    refine (sound.mirrors other).trans (congrArg (Option.map Stored.object) ?_)
    obtain same | succeeds := moves other
    · exact congrArg Site.cached same.symm
    · exact succeeds.cached_eq.symm
  · intro other
    obtain same | succeeds := moves other
    · exact same ▸ sound.guarded other
    · exact succeeds.guarded (sound.guarded other)
  · intro job present
    obtain ⟨custody, follows, guards⟩ := sound.covers job present
    refine ⟨custody, follows, fun stored isHeld => ?_⟩
    obtain same | succeeds := moves job.task.name
    · exact same ▸ guards stored isHeld
    · exact succeeds.guards (sound.guarded job.task.name) (guards stored isHeld)

theorem step
    {next : World}
    (sound : world.Sound attacher)
    (step : Step attacher.finalizer world next) :
    next.Sound attacher := by
  cases step with
  | event event older confirms forgets mirrors => exact sound.after confirms forgets mirrors
  | server name next change => exact sound.server change

end Sound

/-- A world that begins is sound. -/
theorem Begins.sound (begins : world.Begins attacher) : world.Sound attacher := by
  obtain ⟨retryStart, retryMaximum, workers, isFeeding, idle⟩ := begins.idle
  refine ⟨by rw [idle]; rfl, by simp [Controller.Sound, idle, Controller.idle], ?_, ?_,
    by simp [Controller.jobs, idle, Controller.idle]⟩
  · intro name
    simp [idle, Controller.idle, Caches.attachment?, Caches.empty, Site.cached, Site.states,
      (begins.sites name).older]
  · intro name
    exact (begins.sites name).guarded

theorem Reachable.sound (reachable : Reachable attacher world) : world.Sound attacher := by
  obtain ⟨start, begins, run⟩ := reachable
  induction run with
  | refl => exact begins.sound
  | tail _ step ih => exact ih.step step

/-- What the driver was asked to publish and did not withdraw since is stored and carries the
finalizer. -/
theorem Reachable.stored_of_outstanding
    {name : String}
    {incarnation : Nat}
    (reachable : Reachable attacher world)
    (isOut : incarnation ∈ (world.sites name).outstanding) :
    ∃ stored, (world.sites name).present = some stored ∧ stored.incarnation = incarnation ∧
      stored.object.metadata.hasFinalizer attacher.finalizer = true :=
  ((reachable.sound.guarded name).outstanding incarnation isOut).2

/-! ## An attachment that is published -/

/-- The world after an event that leaves the cached attachments as they are. -/
def still (world : World) (event : ControllerEvent) : World :=
  world.after event fun name => (world.sites name).older

theorem states_still (world : World) (event : ControllerEvent) (name : String) :
    ((world.still event).sites name).states = (world.sites name).states :=
  world.states_after event _ name

theorem Reachable.still
    (reachable : Reachable attacher world)
    (confirms : world.Confirms event)
    (spares : ∀ change, event ≠ .changed (.attachments change)) :
    Reachable attacher (world.still event) := by
  have mirrors : (world.still event).Mirrors := by
    intro name
    have cached : ((world.still event).sites name).cached = (world.sites name).cached := by
      unfold Site.cached
      simp only [world.states_still]
    have attachments := world.controller.attachments_step spares
    rw [cached, ← reachable.sound.mirrors name]
    unfold Caches.attachment?
    exact congrArg (List.find? _) attachments
  obtain ⟨start, begins, run⟩ := reachable
  exact ⟨start, begins, run.tail (.event event _ confirms (fun name => List.prefix_rfl) mirrors)⟩

/-- Events that are no answers and leave the cached attachments as they are may happen one after the
other. -/
theorem Reachable.foldl_still
    (reachable : Reachable attacher world)
    (events : List ControllerEvent)
    (silent : ∀ event ∈ events, (∀ task reply, event ≠ .answer task reply) ∧
      ∀ change, event ≠ .changed (.attachments change)) :
    Reachable attacher (events.foldl World.still world) := by
  induction events generalizing world with
  | nil => exact reachable
  | cons event rest ih =>
    obtain ⟨noAnswer, spares⟩ := silent event List.mem_cons_self
    have confirms : world.Confirms event := by
      unfold Confirms
      split
      · next task reply => exact absurd rfl (noAnswer task reply)
      · trivial
    exact ih (reachable.still confirms spares) fun other later =>
      silent other (List.mem_cons_of_mem _ later)

/-- An attachment without the finalizer. -/
def wantedAttachment : VolumeAttachment :=
  { TimedController.boundAttachment "1" with
      metadata := { (TimedController.boundAttachment "1").metadata with finalizers := [] } }

/-- The controller before its first term, and the attachment on the server. -/
def opening : World where
  controller := History.hostPathController
  sites name :=
    if name = "va-1" then
      { present := some ⟨0, wantedAttachment⟩
        older := [none]
        versions := [⟨0, wantedAttachment⟩]
        births := 1
        sent := []
        done := []
        outstanding := [] }
    else ⟨none, [none], [], 0, [], [], []⟩
  held _ := none

theorem begins_opening : opening.Begins History.hostPath := by
  refine ⟨⟨_, _, _, _, rfl⟩, ?_⟩
  intro name
  unfold opening
  dsimp only
  split
  · exact ⟨rfl, rfl, by simp [wantedAttachment, TimedController.boundAttachment,
      TimedController.heldMetadata], by simp, rfl, rfl, List.forall_mem_nil _⟩
  · exact ⟨rfl, rfl, by simp, by simp, rfl, rfl, List.forall_mem_nil _⟩

/-- Only the attachment is cached, and nothing was stored elsewhere. -/
theorem mirrors_of_wanted
    (cached : world.controller.caches.attachments = [wantedAttachment])
    (stored : (world.sites "va-1").states = [some ⟨0, wantedAttachment⟩])
    (vacant : ∀ name, name ≠ "va-1" → (world.sites name).states = [none, none]) :
    world.Mirrors := by
  intro name
  unfold Caches.attachment? Site.cached
  rw [cached]
  by_cases same : name = "va-1"
  · subst same
    simp only [stored]
    rfl
  · have named : wantedAttachment.name = "va-1" := rfl
    simp [vacant name same, named, Ne.symm same]

/-- A term begins and the attachments are listed. -/
def listing : World :=
  (opening.still .start).after (.changed (.attachments (.listed [wantedAttachment])))
    fun name => if name = "va-1" then [] else [none]

theorem reachable_listing : Reachable History.hostPath listing := by
  have reachable : Reachable History.hostPath (opening.still .start) :=
    Reachable.still ⟨opening, begins_opening, .refl⟩ trivial (by simp)
  have mirrors : listing.Mirrors := by
    refine mirrors_of_wanted rfl rfl fun name other => ?_
    have site : opening.sites name = ⟨none, [none], [], 0, [], [], []⟩ := if_neg other
    have before : ((opening.still .start).sites name).present = none := by
      have states := opening.states_still .start name
      rw [site] at states
      exact (List.cons.inj states).1
    rw [listing, states_after, before, if_neg other]
  obtain ⟨start, begins, run⟩ := reachable
  refine ⟨start, begins, run.tail (.event _ _ trivial (fun name => ?_) mirrors)⟩
  by_cases same : name = "va-1"
  · simp [same]
  · simp [same, World.still, after, opening, Site.forget]

/-- The other feeds list their objects, and a worker takes the attachment. -/
def taking : List ControllerEvent :=
  [.changed (.volumes (.listed [TimedController.boundVolume])), .changed (.nodes (.listed [])),
    .changed (.registrations (.listed [])), .ready, .take .attachment]

/-- The server is asked to add the finalizer. -/
def asking : World := taking.foldl World.still listing

theorem reachable_asking : Reachable History.hostPath asking :=
  reachable_listing.foldl_still taking (by simp [taking])

/-- The write that adds the finalizer. -/
def addition : FinalizerWrite where
  origin := ⟨0, wantedAttachment⟩
  edit := .addToAttachment wantedAttachment "node-1-id"
  finalizer := History.hostPath.finalizer
  copied := rfl

/-- The attachment as it was created. -/
def wantedEdition : Edition where
  body := .object [("metadata", .object [
    ("name", .text "va-1"),
    ("annotations", .ofTextMap [(attachmentNodeIdKey, "node-1-id")])])]
  version := "1"

/-- The write takes effect wherever it was sent and the attachment is as it was. -/
theorem change_addition
    {finalizer : String}
    {site : Site}
    (sent : addition ∈ site.sent)
    (present : site.present = some ⟨0, wantedAttachment⟩)
    (fresh : site.IsFresh (TimedController.boundAttachment "2")) :
    site.Change finalizer
      { site.store ⟨0, TimedController.boundAttachment "2"⟩ with done := addition :: site.done } :=
  have turns : addition.edit.Turns addition.finalizer wantedAttachment.metadata
      (TimedController.boundAttachment "2").metadata :=
    ⟨wantedEdition, _, rfl, FinalizerEdit.makes_edited addition.finalizer "2" rfl, rfl⟩
  .written addition ⟨0, wantedAttachment⟩ _ sent present turns fresh

/-- The write takes effect. -/
def finalizing : World :=
  asking.withSite "va-1"
    { (asking.sites "va-1").store ⟨0, TimedController.boundAttachment "2"⟩ with
      done := addition :: (asking.sites "va-1").done }

theorem reachable_finalizing : Reachable History.hostPath finalizing := by
  obtain ⟨start, begins, run⟩ := reachable_asking
  refine ⟨start, begins, run.tail (.server "va-1" _ ?_)⟩
  exact change_addition (.head _) rfl ⟨"2", rfl, by decide⟩

/-- The server says so, and the driver is asked to publish. -/
def publishing : World :=
  finalizing.still (.answer TimedController.boundTask TimedController.busyDriver)

theorem reachable_publishing : Reachable History.hostPath publishing := by
  refine reachable_finalizing.still ?_ (by simp)
  intro request asked _ write isWrite
  obtain rfl : Request.addAttachmentFinalizer wantedAttachment History.hostPath.finalizer
      "node-1-id" = request := Option.some.inj asked
  obtain rfl : addition = write := Option.some.inj isWrite
  exact .head _

/-- An attachment whose volume the driver was asked to publish carries the finalizer. -/
theorem stored_in_publishing :
    Reachable History.hostPath publishing ∧ 0 ∈ (publishing.sites "va-1").outstanding ∧
      ∃ stored, (publishing.sites "va-1").present = some stored ∧ stored.incarnation = 0 ∧
        stored.object.metadata.hasFinalizer History.hostPath.finalizer = true :=
  have isOut : 0 ∈ (publishing.sites "va-1").outstanding := .head _
  ⟨reachable_publishing, isOut, reachable_publishing.stored_of_outstanding isOut⟩

end World

end VolumeAttacher
