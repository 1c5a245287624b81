import VolumeAttacher.Proofs.Controller.Backoff
import VolumeAttacher.Proofs.Controller.Sojourn

/-!
# Where a volume is withdrawn

What the driver is asked during the stay of an attachment. It is told what is registered or
annotated for the node, and otherwise what the attachment remembers. A volume that was published
to a node under an ID that registered later is withdrawn under the ID that is remembered, if nothing
is registered or annotated any more.
-/

namespace VolumeAttacher

namespace Sojourn

variable {attacher : Attacher} {name : String} {sojourn next : Sojourn}

/-! ## What is asked -/

/-- What the driver calls the node of the attachment that a reconciliation works on is what is
registered or annotated, and otherwise what is remembered. -/
def Resolves (attacher : Attacher) (name : String) (sojourn : Sojourn) : Prop :=
  ∃ recorded, sojourn.recorded? = some recorded ∧
    ∀ attachment ∈ sojourn.caches.attachment? name,
      Reconciliation.nodeIdOf attacher sojourn.caches attachment =
        .ok ((Reconciliation.namedNodeId? attacher sojourn.caches attachment).getD recorded)

/-- The reconciliation works on a version of the attachment, and the driver was only asked to
publish to the node as it was registered or annotated, or else as it is remembered. -/
structure Told (attacher : Attacher) (name : String) (sojourn : Sojourn) : Prop where
  cached : ∀ attachment ∈ sojourn.caches.attachment? name, attachment ∈ sojourn.versions
  published : ∀ publication ∈ sojourn.publications, ∃ recorded,
    sojourn.recorded? = some recorded ∧ publication.nodeId = publication.named?.getD recorded
  follows : ∃ finalized,
    sojourn.rest.Follows (Reconciliation.addressing attacher sojourn.caches
        (sojourn.caches.attachment? name)) Reconciliation.Anyhow finalized ∧
      (finalized = true → sojourn.Resolves attacher name)

section Lookup

variable {attachment : VolumeAttachment} {caches : Caches}

/-- What a version that carries the finalizer remembers counts if nothing is registered or
annotated. -/
theorem Kept.resolves
    (kept : sojourn.Kept attacher)
    (cached : caches.attachment? name = some attachment)
    (isVersion : attachment ∈ sojourn.versions)
    (carries : attachment.metadata.hasFinalizer attacher.finalizer = true) :
    Resolves attacher name { sojourn with caches } := by
  obtain ⟨id, recorded, remembered⟩ := kept.remembered attachment isVersion carries
  have nonempty : id ≠ "" := (kept.kept id recorded).1
  refine ⟨id, recorded, ?_⟩
  intro other isCached
  obtain rfl := Option.some.inj (cached.symm.trans isCached)
  rw [Reconciliation.nodeIdOf_eq_ok_iff, remembered]
  cases Reconciliation.namedNodeId? attacher caches attachment with
  | none => simp [nonempty?, nonempty]
  | some named => rfl

/-- What was found and then added to what is remembered is found again. -/
theorem resolves_of_recorded
    {id : String}
    (recorded : sojourn.recorded? = some id)
    (cached : sojourn.caches.attachment? name = some attachment)
    (found : Reconciliation.nodeIdOf attacher sojourn.caches attachment = .ok id) :
    sojourn.Resolves attacher name := by
  refine ⟨id, recorded, ?_⟩
  intro other isCached
  obtain rfl := Option.some.inj (cached.symm.trans isCached)
  rw [found]
  rw [Reconciliation.nodeIdOf_eq_ok_iff] at found
  cases named : Reconciliation.namedNodeId? attacher sojourn.caches attachment with
  | none => rfl
  | some other =>
    rw [named, Option.some_or] at found
    rw [Option.some.inj found]
    rfl

end Lookup

section Proceed

variable {caches : Caches} {rest : Dialogue Request Request.Answer (Except Fault Unit)}
  {finalized : Bool}

/-- A reconciliation that keeps to the rules sends a lawful write, if any. -/
theorem Kept.proceed
    (kept : sojourn.Kept attacher)
    (cached : ∀ attachment ∈ caches.attachment? name, attachment ∈ sojourn.versions)
    (follows : rest.Follows (Reconciliation.addressing attacher caches (caches.attachment? name))
      Reconciliation.Anyhow finalized) :
    (sojourn.proceed attacher name caches rest).Kept attacher := by
  have sends (write : MetadataWrite)
      (isNew : write ∈ (rest.asked?.bind MetadataWrite.ofRequest?).toList) :
      write.origin ∈ sojourn.versions ∧ write.Lawful attacher := by
    rw [Option.mem_toList, Option.bind_eq_some_iff] at isNew
    obtain ⟨request, asks, isWrite⟩ := isNew
    obtain ⟨isCached, lawful⟩ := MetadataWrite.lawful_of_permits (follows.permits asks) isWrite
    exact ⟨cached _ isCached, lawful⟩
  refine ⟨⟨kept.chronicle.numbered, kept.chronicle.stated, ?_⟩, ?_, kept.recorded, kept.kept,
    kept.remembered⟩
  · exact List.forall_mem_append.mpr ⟨fun write isNew => (sends write isNew).1,
      kept.chronicle.origin⟩
  · exact List.forall_mem_append.mpr ⟨fun write isNew => (sends write isNew).2, kept.lawful⟩

/-- A reconciliation that keeps to the rules has the volume published to the node as it is
registered or annotated, or else as it is remembered. -/
theorem Told.proceed
    (told : sojourn.Told attacher name)
    (cached : ∀ attachment ∈ caches.attachment? name, attachment ∈ sojourn.versions)
    (follows : rest.Follows (Reconciliation.addressing attacher caches (caches.attachment? name))
      Reconciliation.Anyhow finalized)
    (resolves : finalized = true → Resolves attacher name { sojourn with caches }) :
    (sojourn.proceed attacher name caches rest).Told attacher name := by
  refine ⟨cached, List.forall_mem_append.mpr ⟨?_, told.published⟩, finalized, follows, resolves⟩
  intro publication isNew
  rw [Option.mem_toList, Option.bind_eq_some_iff] at isNew
  obtain ⟨request, asks, isPublication⟩ := isNew
  have permitted := follows.permits asks
  cases request with
  | publish request timeout =>
    obtain ⟨attachment, isCached, isFinalized, found⟩ := permitted
    obtain ⟨recorded, isRecorded, resolved⟩ := resolves isFinalized
    have same := (resolved attachment isCached).symm.trans found
    cases isPublication
    refine ⟨recorded, isRecorded, ?_⟩
    simp only [named?, isCached, Option.bind_some]
    exact (Except.ok.inj same).symm
  | _ => cases isPublication

end Proceed

/-- What was told stays true when another version is stored. -/
theorem Told.store
    {object : VolumeAttachment}
    {accepted : List MetadataWrite}
    (told : sojourn.Told attacher name)
    (lasting : ∀ id ∈ sojourn.recorded?, accepted.findSome? MetadataWrite.nodeId = some id) :
    Told attacher name { sojourn.store object with accepted } where
  cached attachment isCached := List.mem_cons_of_mem _ (told.cached attachment isCached)
  published publication isKnown := by
    obtain ⟨recorded, isRecorded, same⟩ := told.published publication isKnown
    exact ⟨recorded, lasting recorded isRecorded, same⟩
  follows := by
    obtain ⟨finalized, follows, resolves⟩ := told.follows
    refine ⟨finalized, follows, ?_⟩
    intro isFinalized
    obtain ⟨recorded, isRecorded, resolved⟩ := resolves isFinalized
    exact ⟨recorded, lasting recorded isRecorded, resolved⟩

/-- Every step keeps to what is remembered. -/
theorem Step.sound
    (step : Step attacher name sojourn next)
    (kept : sojourn.Kept attacher)
    (told : sojourn.Told attacher name) :
    next.Kept attacher ∧ next.Told attacher name := by
  cases step with
  | begins caches idle cached =>
    have follows := Reconciliation.attachment_addressing attacher caches name
    refine ⟨kept.proceed cached follows, told.proceed cached follows ?_⟩
    intro carries
    obtain ⟨attachment, isCached, carries⟩ := (Option.any_eq_true _ _).mp carries
    exact kept.resolves isCached (cached attachment isCached) carries
  | @answered request resume answer asks confirmed =>
    obtain ⟨finalized, follows, resolves⟩ := told.follows
    rw [asks] at follows
    refine ⟨kept.proceed told.cached (follows.2 answer),
      told.proceed told.cached (follows.2 answer) ?_⟩
    intro either
    obtain isFinalized | isConfirmed := Bool.or_eq_true_iff.mp either
    · exact resolves isFinalized
    · -- The cached version need not carry the finalizer yet, but what was looked up is recorded.
      have permitted := follows.1
      cases request with
      | addAttachmentFinalizer attachment added nodeId =>
        obtain ⟨isCached, -, -, -, found⟩ := permitted
        have isAccepted := confirmed isConfirmed _ rfl
        exact resolves_of_recorded (kept.recorded _ isAccepted nodeId rfl) isCached found
      | _ => cases isConfirmed
  | abandoned =>
    exact ⟨{ kept with chronicle := { kept.chronicle with } },
      told.cached, told.published, false, trivial, nofun⟩
  | edited object fresh lasting finalizers annotations =>
    exact ⟨kept.edit fresh lasting finalizers annotations, told.store fun _ => id⟩
  | written write object sent turns fresh =>
    refine ⟨kept.overwrite sent turns fresh, told.store ?_⟩
    intro id isRecorded
    have recorded := sojourn.recorded?_overwrite write object
    cases remembers : write.nodeId with
    | some other =>
      have origin := kept.chronicle.eq_origin sent turns
      cases (kept.recorded?_eq_none sent origin remembers).symm.trans isRecorded
    | none =>
      rw [remembers, Option.none_or] at recorded
      exact recorded.trans isRecorded

theorem Reachable.sound (reachable : Reachable attacher name sojourn) :
    sojourn.Kept attacher ∧ sojourn.Told attacher name := by
  obtain ⟨object, stated, lacks, run⟩ := reachable
  induction run with
  | refl => exact ⟨.opening stated lacks, nofun, nofun, false, trivial, nofun⟩
  | tail _ step inductionHypothesis =>
    exact step.sound inductionHypothesis.1 inductionHypothesis.2

/-- When nothing is registered or annotated for the node, the driver is asked to withdraw the volume
from the node that the attachment was made to remember with the finalizer. It is the node to which
the volume was published last exactly if nothing else was registered or annotated then. -/
theorem Reachable.withdrawn_where_published_iff
    {request : UnpublishRequest}
    {timeout : Duration}
    {publication : Publication}
    (reachable : Reachable attacher name sojourn)
    (asks : sojourn.rest.asked? = some (.unpublish request timeout))
    (unnamed : sojourn.named? attacher name = none)
    (published : sojourn.publications.head? = some publication) :
    sojourn.recorded? = some request.nodeId ∧
      (request.nodeId = publication.nodeId ↔
        ∀ id ∈ publication.named?, sojourn.recorded? = some id) := by
  obtain ⟨kept, told⟩ := reachable.sound
  obtain ⟨finalized, follows, -⟩ := told.follows
  obtain ⟨attachment, isCached, carries, found⟩ := follows.permits asks
  obtain ⟨id, isRecorded, resolved⟩ :=
    kept.resolves isCached (told.cached attachment isCached) carries
  have nothing : Reconciliation.namedNodeId? attacher sojourn.caches attachment = none := by
    simpa [named?, isCached] using unnamed
  have same : request.nodeId = id := by
    have equal := found.symm.trans (resolved attachment isCached)
    rw [nothing] at equal
    exact Except.ok.inj equal
  have recorded : sojourn.recorded? = some request.nodeId := by
    rw [same]
    exact isRecorded
  refine ⟨recorded, ?_⟩
  obtain ⟨other, isOther, told⟩ := told.published publication (List.mem_of_head? published)
  obtain rfl := Option.some.inj (recorded.symm.trans isOther)
  rw [told, recorded]
  cases publication.named? with
  | none => simp
  | some named => simp

/-! ## A node that registers again -/

/-- The reconciliation goes on with the answer to its request. -/
def hear
    (attacher : Attacher)
    (name : String)
    (sojourn : Sojourn)
    (answers : (request : Request) → request.Answer) : Sojourn :=
  match sojourn.rest with
  | .done _ => sojourn
  | .ask request resume =>
    sojourn.proceed attacher name sojourn.caches (resume (answers request))

theorem Reachable.hear
    {answers : (request : Request) → request.Answer}
    (reachable : Reachable attacher name sojourn)
    (confirmed : ∀ request, sojourn.rest.asked? = some request →
      request.finalizes (answers request) = true →
        ∀ write ∈ MetadataWrite.ofRequest? request, write ∈ sojourn.accepted) :
    Reachable attacher name (sojourn.hear attacher name answers) := by
  unfold Sojourn.hear
  split
  · exact reachable
  · next request resume asks =>
    obtain ⟨object, stated, lacks, run⟩ := reachable
    have isAsked : sojourn.rest.asked? = some request := congrArg Dialogue.asked? asks
    exact ⟨object, stated, lacks, run.tail (.answered _ asks (confirmed request isAsked))⟩

/-- The reconciliation goes on with answers none of which confirms that the finalizer was added. -/
theorem Reachable.foldl_hear
    {answers : List ((request : Request) → request.Answer)}
    (reachable : Reachable attacher name sojourn)
    (unconfirmed : ∀ answer ∈ answers, ∀ request : Request,
      request.finalizes (answer request) = false) :
    Reachable attacher name (answers.foldl (Sojourn.hear attacher name) sojourn) := by
  induction answers generalizing sojourn with
  | nil => exact reachable
  | cons answer rest inductionHypothesis =>
    obtain ⟨first, unconfirmed⟩ := List.forall_mem_cons.mp unconfirmed
    refine inductionHypothesis (reachable.hear ?_) unconfirmed
    intro request _ confirms
    rw [first request] at confirms
    cases confirms

theorem versions_hear (answers : (request : Request) → request.Answer) :
    (sojourn.hear attacher name answers).versions = sojourn.versions := by
  unfold hear
  split <;> rfl

theorem versions_foldl_hear (answers : List ((request : Request) → request.Answer)) :
    (answers.foldl (hear attacher name) sojourn).versions = sojourn.versions := by
  induction answers generalizing sojourn with
  | nil => rfl
  | cons answer rest inductionHypothesis => exact inductionHypothesis.trans (versions_hear answer)

/-- Caches with an attachment, its volume, and what the driver of its node registered. -/
def surroundings (attachment : VolumeAttachment) (registered : Option String) : Caches where
  attachments := [attachment]
  volumes := [TimedController.boundVolume]
  nodes := []
  registrations := registered.toList.map fun id =>
    ⟨{ Metadata.empty with name := some "node-1" }, [⟨"hostpath.csi.k8s.io", id⟩]⟩

/-- The reconciliation of the attachment begins. -/
def start (sojourn : Sojourn) (attachment : VolumeAttachment) (registered : Option String) :
    Sojourn :=
  let caches := surroundings attachment registered
  sojourn.proceed History.hostPath "va-1" caches
    (Reconciliation.attachment History.hostPath caches "va-1").run

theorem versions_start (attachment : VolumeAttachment) (registered : Option String) :
    (sojourn.start attachment registered).versions = sojourn.versions :=
  rfl

theorem Reachable.start
    {attachment : VolumeAttachment}
    (reachable : Reachable History.hostPath "va-1" sojourn)
    (idle : sojourn.rest.asked? = none)
    (isVersion : attachment ∈ sojourn.versions)
    (registered : Option String) :
    Reachable History.hostPath "va-1" (sojourn.start attachment registered) := by
  obtain ⟨object, stated, lacks, run⟩ := reachable
  refine ⟨object, stated, lacks, run.tail (.begins _ idle ?_)⟩
  intro other isCached
  obtain rfl := List.mem_singleton.mp (List.mem_of_find?_eq_some isCached)
  exact isVersion

/-- A driver answers in some way when it is asked to publish a volume, and no finalizer is added. -/
def driverAnswers (reply : Reply Json.TextMap) : (request : Request) → request.Answer
  | .publish _ _ => reply
  | .addAttachmentFinalizer _ _ _ => .error (.notFound "VolumeAttachment" "va-1")
  | request => TimedController.busyDriver request

theorem not_finalizes_driverAnswers (reply : Reply Json.TextMap) (request : Request) :
    request.finalizes (driverAnswers reply request) = false := by
  cases request <;> rfl

theorem Reachable.foldl_driverAnswers
    (reachable : Reachable attacher name sojourn)
    (count : Nat)
    (reply : Reply Json.TextMap) :
    Reachable attacher name
      ((List.replicate count (driverAnswers reply)).foldl (Sojourn.hear attacher name) sojourn) := by
  apply reachable.foldl_hear
  intro answer isAnswer
  rw [List.eq_of_mem_replicate isAnswer]
  exact not_finalizes_driverAnswers reply

/-- The write that adds the finalizer. -/
def addition : MetadataWrite :=
  ⟨History.firstAttachment, History.hostPath.finalizer, some "node-1-id"⟩

/-- The attachment as it was created. -/
def firstEdition : Edition where
  body := .object [("metadata", .object [("name", .text "va-1")])]
  version := "1"

/-- The attachment with the finalizer. -/
def heldAttachment : VolumeAttachment := TimedController.boundAttachment "2"

theorem turns_addition :
    addition.edit.Turns addition.finalizer History.firstAttachment.metadata
      heldAttachment.metadata :=
  ⟨firstEdition, _, rfl, FinalizerEdit.makes_edited addition.finalizer "2" rfl, rfl⟩

/-- The finalizer is added. -/
def added : Sojourn :=
  ((opening History.firstAttachment).start History.firstAttachment "node-1-id").overwrite
    addition heldAttachment

/-- The driver takes too long to publish the volume. -/
def refused : Sojourn :=
  (List.replicate 3 (driverAnswers .timedOut)).foldl (hear History.hostPath "va-1")
    (added.hear History.hostPath "va-1" TimedController.busyDriver)

/-- The node has registered with some ID, and the driver publishes the volume. -/
def published (registered : String) : Sojourn :=
  (List.replicate 3 (driverAnswers (.answered (.ok [])))).foldl (hear History.hostPath "va-1")
    (refused.start heldAttachment registered)

/-- The attachment while it is being deleted. -/
def doomedAttachment : VolumeAttachment :=
  { heldAttachment with
      metadata :=
        { heldAttachment.metadata with
            resourceVersion := some "3"
            deletionTime := some default }
      attached := true }

/-- The node is gone when the volume is to be withdrawn. -/
def withdrawing (registered : String) : Sojourn :=
  ((published registered).store doomedAttachment).start doomedAttachment none

theorem reachable_refused : Reachable History.hostPath "va-1" refused := by
  have opened : Reachable History.hostPath "va-1" (opening History.firstAttachment) :=
    ⟨_, rfl, rfl, .refl⟩
  obtain ⟨object, stated, lacks, run⟩ := opened.start rfl (.head _) "node-1-id"
  have reachable : Reachable History.hostPath "va-1" added :=
    ⟨object, stated, lacks, run.tail (.written addition heldAttachment (.head _) turns_addition
      ⟨rfl, by decide⟩)⟩
  refine Reachable.foldl_driverAnswers (reachable.hear ?_) 3 .timedOut
  rintro _ ⟨⟩ - _ ⟨⟩
  exact .head _

theorem versions_published (registered : String) :
    (published registered).versions = [heldAttachment, History.firstAttachment] := by
  unfold published
  rw [versions_foldl_hear, versions_start]
  unfold refused
  rw [versions_foldl_hear, versions_hear]
  rfl

theorem reachable_withdrawing
    (registered : String)
    (idle : (published registered).rest.asked? = none) :
    Reachable History.hostPath "va-1" (withdrawing registered) := by
  have reachable : Reachable History.hostPath "va-1" (published registered) :=
    (reachable_refused.start rfl (.head _) registered).foldl_driverAnswers 3 (.answered (.ok []))
  obtain ⟨object, stated, lacks, run⟩ := reachable
  have versions := versions_published registered
  have present : (published registered).present = heldAttachment := (List.cons.inj versions).1
  have fresh : (published registered).IsFresh doomedAttachment := by
    refine ⟨rfl, ?_⟩
    rw [versions]
    decide
  have deleted := run.tail (.edited doomedAttachment fresh (fun _ => rfl)
    (congrArg (·.metadata.finalizers) present.symm)
    (congrArg (·.metadata.annotations) present.symm))
  exact Reachable.start ⟨object, stated, lacks, deleted⟩ idle (.head _) none

/-- The volume is withdrawn from where it was published if the node registered with the ID that is
remembered. -/
theorem withdrawn_where_published_of_same_id :
    Reachable History.hostPath "va-1" (withdrawing "node-1-id") ∧
      (withdrawing "node-1-id").rest.asked? = some (.unpublish ⟨"handle-pv-1", "node-1-id", []⟩
        History.hostPath.timeout) ∧
      (withdrawing "node-1-id").named? History.hostPath "va-1" = none ∧
      (withdrawing "node-1-id").publications.head? = some ⟨"node-1-id", "node-1-id"⟩ ∧
      (withdrawing "node-1-id").recorded? = some "node-1-id" ∧
      ("node-1-id" = "node-1-id" ↔
        ∀ id ∈ some "node-1-id", (withdrawing "node-1-id").recorded? = some id) := by
  have reachable := reachable_withdrawing "node-1-id" rfl
  exact ⟨reachable, rfl, rfl, rfl, reachable.withdrawn_where_published_iff rfl rfl rfl⟩

/-- The volume is withdrawn from another node than the one to which it was published last. -/
theorem withdrawn_elsewhere :
    Reachable History.hostPath "va-1" (withdrawing "node-2-id") ∧
      (withdrawing "node-2-id").rest.asked? = some (.unpublish ⟨"handle-pv-1", "node-1-id", []⟩
        History.hostPath.timeout) ∧
      (withdrawing "node-2-id").named? History.hostPath "va-1" = none ∧
      (withdrawing "node-2-id").publications.head? = some ⟨"node-2-id", "node-2-id"⟩ :=
  ⟨reachable_withdrawing _ rfl, rfl, rfl, rfl⟩

end Sojourn

end VolumeAttacher
