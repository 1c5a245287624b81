import Mathlib.Data.List.Nodup
import Mathlib.Logic.Relation
import Mathlib.Tactic.SplitIfs
import VolumeAttacher.Proofs.Controller.Site
import VolumeAttacher.Proofs.Json.TextMaps
import VolumeAttacher.Proofs.Reconciliation.Address

/-!
# The stay of one attachment

One attachment, from before it carries the finalizer, and its reconciliations one after the other.
Each works on some version of the attachment and on whatever volumes and nodes are cached, and its
requests may fail. Nobody else changes the finalizers or the annotations. What the attachment
remembers of its node is what was to be remembered when the finalizer was added, and that happens
once.
-/

namespace VolumeAttacher

/-- What a dialogue asks next. -/
def Dialogue.asked?
    {Question : Type}
    {Answer : Question → Type}
    {α : Type} : Dialogue Question Answer α → Option Question
  | .done _ => none
  | .ask question _ => some question

theorem Dialogue.Follows.permits
    {Question State α : Type}
    {Answer : Question → Type}
    {protocol : Protocol Question Answer State}
    {state : State}
    {ends : State → α → Prop}
    {dialogue : Dialogue Question Answer α}
    {question : Question}
    (follows : dialogue.Follows protocol ends state)
    (asks : dialogue.asked? = some question) :
    protocol.permits state question := by
  cases dialogue with
  | done result => cases asks
  | ask asked resume =>
    cases asks
    exact follows.1

/-- A write of an attachment's metadata, and the version that it was made from. It adds the finalizer
if there is something to be remembered, and else takes it away. -/
structure MetadataWrite where
  origin : VolumeAttachment
  finalizer : String
  /-- What the driver calls the node, if that is to be remembered. -/
  nodeId : Option String
  deriving DecidableEq

namespace MetadataWrite

/-- The edit of finalizers that a write is. -/
def edit (write : MetadataWrite) : FinalizerEdit :=
  match write.nodeId with
  | some nodeId => .addToAttachment write.origin nodeId
  | none => .removeFromAttachment write.origin

/-- What the finalizers are to become. -/
def finalizers (write : MetadataWrite) : List String :=
  write.edit.outcome write.finalizer write.origin.metadata.finalizers

/-- The write of metadata that a request is. -/
def ofRequest? : Request → Option MetadataWrite
  | .addAttachmentFinalizer attachment added nodeId => some ⟨attachment, added, some nodeId⟩
  | .removeAttachmentFinalizer attachment removed => some ⟨attachment, removed, none⟩
  | _ => none

theorem metadata_edit (write : MetadataWrite) : write.edit.metadata = write.origin.metadata := by
  unfold edit
  cases write.nodeId <;> rfl

theorem nodeId?_edit (write : MetadataWrite) : write.edit.nodeId? = write.nodeId := by
  unfold edit
  cases write.nodeId <;> rfl

/-- What an accepted write makes of the metadata that it was made from. -/
theorem rewrites
    {write : MetadataWrite}
    {metadata : Metadata}
    (turns : write.edit.Turns write.finalizer write.origin.metadata metadata) :
    metadata.finalizers = write.finalizers ∧
      metadata.deletionTime = write.origin.metadata.deletionTime ∧
      metadata.annotation? attachmentNodeIdKey =
        write.nodeId.or (write.origin.metadata.annotation? attachmentNodeIdKey) := by
  rw [finalizers, ← write.metadata_edit, ← write.nodeId?_edit]
  rw [← write.metadata_edit] at turns
  exact ⟨turns.rewrites.finalizers, turns.rewrites.deletionTime, turns.rewrites.remembered⟩

/-- A write adds the finalizer to what lacks it and is wanted, with something to be remembered, or
takes it from what is being deleted. -/
structure Lawful (attacher : Attacher) (write : MetadataWrite) : Prop where
  adds : ∀ id ∈ write.nodeId, id ≠ "" ∧ attacher.finalizer ∈ write.finalizers ∧
    write.origin.metadata.hasFinalizer attacher.finalizer = false ∧
    write.origin.metadata.isDeleting = false
  removes : write.nodeId = none →
    attacher.finalizer ∉ write.finalizers ∧ write.origin.metadata.isDeleting = true

theorem lawful_of_permits
    {attacher : Attacher}
    {caches : Caches}
    {snapshot : Option VolumeAttachment}
    {finalized : Bool}
    {request : Request}
    {write : MetadataWrite}
    (permitted : (Reconciliation.addressing attacher caches snapshot).permits finalized request)
    (isWrite : ofRequest? request = some write) :
    snapshot = some write.origin ∧ write.Lawful attacher := by
  cases request with
  | addAttachmentFinalizer attachment added nodeId =>
    obtain ⟨isCached, rfl, wanted, lacks, found⟩ := permitted
    cases isWrite
    refine ⟨isCached, ?_, nofun⟩
    rintro _ ⟨⟩
    exact ⟨Reconciliation.ne_empty_of_nodeIdOf found, ClusterClient.mem_withFinalizer _ _, lacks,
      wanted⟩
  | removeAttachmentFinalizer attachment removed =>
    obtain ⟨isCached, rfl, doomed⟩ := permitted
    cases isWrite
    exact ⟨isCached, nofun, fun _ => ⟨ClusterClient.not_mem_withoutFinalizer _ _, doomed⟩⟩
  | _ => cases isWrite

end MetadataWrite

/-- A request to publish the volume. -/
structure Publication where
  /-- What the driver was told that its node is called. -/
  nodeId : String
  /-- What was registered or annotated at that time. -/
  named? : Option String
  deriving DecidableEq

/-- The publication that a request is. -/
def Publication.ofRequest? (named? : Option String) : Request → Option Publication
  | .publish request _ => some ⟨request.nodeId, named?⟩
  | _ => none

/-- An attachment, what was written of it, and the reconciliation that works on it. -/
structure Sojourn where
  /-- What is stored. -/
  present : VolumeAttachment
  /-- What was stored before, the newest first. -/
  older : List VolumeAttachment
  /-- The writes that were sent. -/
  sent : List MetadataWrite
  /-- The writes that took effect, the newest first. -/
  accepted : List MetadataWrite
  /-- What the reconciliation works on. -/
  caches : Caches
  /-- What is left of the reconciliation. -/
  rest : Dialogue Request Request.Answer (Except Fault Unit)
  /-- What the driver was asked to publish, the newest first. -/
  publications : List Publication

namespace Sojourn

/-- An attachment that nothing was done for yet. -/
def opening (object : VolumeAttachment) : Sojourn :=
  ⟨object, [], [], [], .empty, .done (.ok ()), []⟩

/-- Everything that was ever stored, the newest first. -/
def versions (sojourn : Sojourn) : List VolumeAttachment := sojourn.present :: sojourn.older

/-- What the attachment was made to remember of its node. -/
def recorded? (sojourn : Sojourn) : Option String :=
  sojourn.accepted.findSome? MetadataWrite.nodeId

/-- What is registered or annotated for the node of the attachment, in the caches that the
reconciliation works on. -/
def named? (attacher : Attacher) (name : String) (sojourn : Sojourn) : Option String :=
  (sojourn.caches.attachment? name).bind (Reconciliation.namedNodeId? attacher sojourn.caches)

/-- A reconciliation comes to its next request, which is sent. -/
def proceed
    (attacher : Attacher)
    (name : String)
    (sojourn : Sojourn)
    (caches : Caches)
    (rest : Dialogue Request Request.Answer (Except Fault Unit)) : Sojourn :=
  let next := { sojourn with caches, rest }
  { next with
      sent := (rest.asked?.bind MetadataWrite.ofRequest?).toList ++ sojourn.sent
      publications :=
        (rest.asked?.bind (Publication.ofRequest? (next.named? attacher name))).toList ++
          sojourn.publications }

/-- Another version is stored. -/
def store (sojourn : Sojourn) (object : VolumeAttachment) : Sojourn :=
  { sojourn with present := object, older := sojourn.versions }

/-- A write takes effect and makes another version of the attachment. -/
def overwrite (sojourn : Sojourn) (write : MetadataWrite) (object : VolumeAttachment) : Sojourn :=
  { sojourn.store object with accepted := write :: sojourn.accepted }

/-- A version has a number of its own. -/
def IsFresh (sojourn : Sojourn) (object : VolumeAttachment) : Prop :=
  object.metadata.resourceVersion.isSome = true ∧
    object.metadata.resourceVersion ∉ sojourn.versions.map (·.metadata.resourceVersion)

/-- One step in the stay of an attachment. -/
inductive Step (attacher : Attacher) (name : String) (sojourn : Sojourn) : Sojourn → Prop
  /-- A reconciliation begins. It need not see the newest version. -/
  | begins (caches : Caches)
      (idle : sojourn.rest.asked? = none)
      (cached : ∀ attachment ∈ caches.attachment? name, attachment ∈ sojourn.versions) :
    Step attacher name sojourn
      (sojourn.proceed attacher name caches (Reconciliation.attachment attacher caches name).run)
  /-- A request is answered. That the finalizer was added is confirmed only if it was. -/
  | answered {request : Request}
      {resume : request.Answer → Dialogue Request Request.Answer (Except Fault Unit)}
      (answer : request.Answer)
      (asks : sojourn.rest = .ask request resume)
      (confirmed : request.finalizes answer = true →
        ∀ write ∈ MetadataWrite.ofRequest? request, write ∈ sojourn.accepted) :
    Step attacher name sojourn (sojourn.proceed attacher name sojourn.caches (resume answer))
  /-- The reconciliation is given up. -/
  | abandoned : Step attacher name sojourn { sojourn with rest := .done (.ok ()) }
  /-- The attachment is changed or deleted, by whom it may be, but not its finalizers or its
  annotations. -/
  | edited (object : VolumeAttachment)
      (fresh : sojourn.IsFresh object)
      (lasting : sojourn.present.metadata.isDeleting = true → object.metadata.isDeleting = true)
      (finalizers : object.metadata.finalizers = sojourn.present.metadata.finalizers)
      (annotations : object.metadata.annotations = sojourn.present.metadata.annotations) :
    Step attacher name sojourn (sojourn.store object)
  /-- A write that was sent takes effect, whether or not its sender learns of it. -/
  | written (write : MetadataWrite) (object : VolumeAttachment)
      (sent : write ∈ sojourn.sent)
      (turns : write.edit.Turns write.finalizer sojourn.present.metadata object.metadata)
      (fresh : sojourn.IsFresh object) :
    Step attacher name sojourn (sojourn.overwrite write object)

/-- What an attachment without the finalizer may come to. -/
def Reachable (attacher : Attacher) (name : String) (sojourn : Sojourn) : Prop :=
  ∃ object, object.metadata.resourceVersion.isSome = true ∧
    object.metadata.hasFinalizer attacher.finalizer = false ∧
      Relation.ReflTransGen (Step attacher name) (opening object) sojourn

variable {attacher : Attacher} {name : String} {sojourn next : Sojourn}

/-! ## What is remembered -/

theorem recorded?_overwrite (write : MetadataWrite) (object : VolumeAttachment) :
    (sojourn.overwrite write object).recorded? = write.nodeId.or sojourn.recorded? := by
  unfold recorded? overwrite
  rw [List.findSome?_cons]
  cases write.nodeId <;> rfl

/-- Every version has a number of its own, and every write was made from a version. -/
structure Chronicle (sojourn : Sojourn) : Prop where
  numbered : (sojourn.versions.map (·.metadata.resourceVersion)).Nodup
  stated : ∀ version ∈ sojourn.versions, version.metadata.resourceVersion.isSome = true
  origin : ∀ write ∈ sojourn.sent, write.origin ∈ sojourn.versions

namespace Chronicle

variable {write : MetadataWrite}

theorem store
    {object : VolumeAttachment}
    (chronicle : sojourn.Chronicle)
    (fresh : sojourn.IsFresh object) :
    (sojourn.store object).Chronicle where
  numbered := List.nodup_cons.mpr ⟨fresh.2, chronicle.numbered⟩
  stated := List.forall_mem_cons.mpr ⟨fresh.1, chronicle.stated⟩
  origin write sent := List.mem_cons_of_mem _ (chronicle.origin write sent)

/-- A write takes effect on the very version that it was made from. -/
theorem eq_origin
    {metadata : Metadata}
    (chronicle : sojourn.Chronicle)
    (sent : write ∈ sojourn.sent)
    (turns : write.edit.Turns write.finalizer sojourn.present.metadata metadata) :
    sojourn.present = write.origin := by
  have isVersion := chronicle.origin write sent
  obtain ⟨version, stated⟩ := Option.isSome_iff_exists.mp (chronicle.stated _ isVersion)
  apply List.inj_on_of_nodup_map chronicle.numbered List.mem_cons_self isVersion
  exact (turns.resourceVersion_eq (write.metadata_edit ▸ stated)).trans stated.symm

end Chronicle

/-- The finalizer is added at most once, and every version that carries it remembers what was to be
remembered then. -/
structure Kept (attacher : Attacher) (sojourn : Sojourn) : Prop where
  chronicle : sojourn.Chronicle
  lawful : ∀ write ∈ sojourn.sent, write.Lawful attacher
  recorded : ∀ write ∈ sojourn.accepted, ∀ id ∈ write.nodeId, sojourn.recorded? = some id
  kept : ∀ id ∈ sojourn.recorded?, id ≠ "" ∧
    (sojourn.present.metadata.hasFinalizer attacher.finalizer = true ∨
      sojourn.present.metadata.isDeleting = true)
  remembered : ∀ version ∈ sojourn.versions,
    version.metadata.hasFinalizer attacher.finalizer = true →
      ∃ id, sojourn.recorded? = some id ∧ version.rememberedNodeId? = some id

namespace Kept

variable {write : MetadataWrite}

theorem opening
    {object : VolumeAttachment}
    (stated : object.metadata.resourceVersion.isSome = true)
    (lacks : object.metadata.hasFinalizer attacher.finalizer = false) :
    (opening object).Kept attacher where
  chronicle :=
    ⟨List.nodup_singleton _, List.forall_mem_singleton.mpr stated, List.forall_mem_nil _⟩
  lawful := List.forall_mem_nil _
  recorded := List.forall_mem_nil _
  kept := nofun
  remembered := by
    refine List.forall_mem_singleton.mpr ?_
    intro carries
    cases lacks.symm.trans carries

/-- Another version is stored that has the same finalizers and annotations. -/
theorem edit
    {object : VolumeAttachment}
    (kept : sojourn.Kept attacher)
    (fresh : sojourn.IsFresh object)
    (lasting : sojourn.present.metadata.isDeleting = true → object.metadata.isDeleting = true)
    (finalizers : object.metadata.finalizers = sojourn.present.metadata.finalizers)
    (annotations : object.metadata.annotations = sojourn.present.metadata.annotations) :
    (sojourn.store object).Kept attacher := by
  have carries : object.metadata.hasFinalizer attacher.finalizer =
      sojourn.present.metadata.hasFinalizer attacher.finalizer := by
    unfold Metadata.hasFinalizer
    rw [finalizers]
  have remembers : object.rememberedNodeId? = sojourn.present.rememberedNodeId? := by
    unfold VolumeAttachment.rememberedNodeId? Metadata.annotation?
    rw [annotations]
  refine ⟨kept.chronicle.store fresh, kept.lawful, kept.recorded, ?_, ?_⟩
  · intro id isRecorded
    obtain ⟨nonempty, isCarried | isDeleting⟩ := kept.kept id isRecorded
    · exact ⟨nonempty, .inl (carries.trans isCarried)⟩
    · exact ⟨nonempty, .inr (lasting isDeleting)⟩
  · refine List.forall_mem_cons.mpr ⟨?_, kept.remembered⟩
    intro isCarried
    obtain ⟨id, recorded, remembered⟩ :=
      kept.remembered _ List.mem_cons_self (carries.symm.trans isCarried)
    exact ⟨id, recorded, remembers.trans remembered⟩

/-- The finalizer is added once. -/
theorem recorded?_eq_none
    {id : String}
    (kept : sojourn.Kept attacher)
    (sent : write ∈ sojourn.sent)
    (origin : sojourn.present = write.origin)
    (remembers : write.nodeId = some id) :
    sojourn.recorded? = none := by
  obtain ⟨-, -, lacks, wanted⟩ := (kept.lawful write sent).adds id remembers
  rw [← origin] at lacks wanted
  apply Option.eq_none_iff_forall_not_mem.mpr
  intro other isRecorded
  have either := (kept.kept other isRecorded).2
  rw [lacks, wanted] at either
  simp at either

/-- A write that was sent takes effect: the finalizer is added, or taken away. -/
theorem overwrite
    {object : VolumeAttachment}
    (kept : sojourn.Kept attacher)
    (sent : write ∈ sojourn.sent)
    (turns : write.edit.Turns write.finalizer sojourn.present.metadata object.metadata)
    (fresh : sojourn.IsFresh object) :
    (sojourn.overwrite write object).Kept attacher := by
  have origin := kept.chronicle.eq_origin sent turns
  have lawful := kept.lawful write sent
  have chronicle : (sojourn.overwrite write object).Chronicle :=
    { kept.chronicle.store fresh with }
  have recorded := sojourn.recorded?_overwrite write object
  rw [origin] at turns
  obtain ⟨finalizers, deletionTime, remembered⟩ := MetadataWrite.rewrites turns
  cases remembers : write.nodeId with
  | some id =>
    -- The version that is overwritten lacks the finalizer, so this is the first addition.
    have first := kept.recorded?_eq_none sent origin remembers
    obtain ⟨nonempty, adds, -, -⟩ := lawful.adds id remembers
    have now : (sojourn.overwrite write object).recorded? = some id := by
      rw [recorded, remembers, Option.some_or]
    refine ⟨chronicle, kept.lawful, ?_, ?_, ?_⟩
    · rw [now]
      refine List.forall_mem_cons.mpr ⟨fun other same => remembers.symm.trans same, ?_⟩
      intro other isAccepted past same
      cases first.symm.trans (kept.recorded other isAccepted past same)
    · intro other same
      obtain rfl := Option.some.inj (now.symm.trans same)
      exact ⟨nonempty, .inl (decide_eq_true (finalizers ▸ adds))⟩
    · refine List.forall_mem_cons.mpr ⟨?_, ?_⟩
      · intro _
        refine ⟨id, now, ?_⟩
        rwa [remembers, Option.some_or] at remembered
      · intro old isVersion carries
        obtain ⟨other, isRecorded, -⟩ := kept.remembered old isVersion carries
        cases first.symm.trans isRecorded
  | none =>
    obtain ⟨removes, doomed⟩ := lawful.removes remembers
    rw [remembers, Option.none_or] at recorded
    refine ⟨chronicle, kept.lawful, ?_, ?_, ?_⟩
    · rw [recorded]
      refine List.forall_mem_cons.mpr ⟨?_, kept.recorded⟩
      rw [remembers]
      nofun
    · rw [recorded]
      intro id isRecorded
      refine ⟨(kept.kept id isRecorded).1, .inr ?_⟩
      exact (congrArg Option.isSome deletionTime).trans doomed
    · rw [recorded]
      refine List.forall_mem_cons.mpr ⟨?_, kept.remembered⟩
      intro carries
      exact absurd (of_decide_eq_true carries) (finalizers ▸ removes)

end Kept

end Sojourn

end VolumeAttacher
