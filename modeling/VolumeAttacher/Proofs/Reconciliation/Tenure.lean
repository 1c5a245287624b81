import VolumeAttacher.Proofs.Reconciliation.Custody
import VolumeAttacher.Proofs.Reconciliation.Feed

/-!
# The finalizer of volumes

A reconciliation works on one volume as it was cached, be it that of an attachment. It asks the
driver to publish the volume only after that carried the finalizer, and takes the finalizer away
only with its first request, from a volume that is being deleted and that no attachment in the
caches uses.
-/

namespace VolumeAttacher

/-- What a reconciliation achieved for its volume. -/
structure Tenure where
  /-- The volume carried the finalizer. -/
  secured : Bool
  /-- A request was made. -/
  begun : Bool

/-- A request by which a volume was given a finalizer. -/
def Request.secures : (request : Request) → request.Answer → Bool
  | .addVolumeFinalizer _ _, .ok () => true
  | _, _ => false

/-- The volume that an attachment of a driver refers to. -/
def VolumeAttachment.volumeFor (attachment : VolumeAttachment) (driver : DriverName) :
    Option String :=
  if attachment.isFor driver then attachment.volumeName else none

theorem VolumeAttachment.volumeFor_eq_some_iff
    {attachment : VolumeAttachment}
    {driver : DriverName}
    {volume : String} :
    attachment.volumeFor driver = some volume ↔ attachment.uses driver volume = true := by
  simp [volumeFor, uses]

namespace Reconciliation

/-- What may be asked for a volume as it was cached, if it was, and free or not. -/
def tenure (finalizer : String) (snapshot : Option Metadata) (free : Bool) :
    Protocol Request Request.Answer Tenure where
  permits state
    | .addVolumeFinalizer volume added => snapshot = some volume.metadata ∧ added = finalizer
    | .removeVolumeFinalizer volume removed =>
      snapshot = some volume.metadata ∧ removed = finalizer ∧ volume.metadata.isDeleting = true ∧
        free = true ∧ state.begun = false
    | .publish _ _ => snapshot.isSome = true ∧ state.secured = true
    | .addAttachmentFinalizer _ _ _ | .removeAttachmentFinalizer _ _ | .unpublish _ _ => True
    | .patchStatus _ _ | .getSecret _ _ | .record _ _ => True
  advance state request answer := ⟨state.secured || request.secures answer, true⟩

/-- The name of the volume that a task is about. -/
def volumeNameOf (attacher : Attacher) (caches : Caches) (task : Task) : Option String :=
  match task.subject with
  | .attachment => (caches.attachment? task.name).bind (·.volumeFor attacher.driver)
  | .volume => some task.name

/-- What is known of the volume that a reconciliation works on. -/
def volumeOf (attacher : Attacher) (caches : Caches) (task : Task) : Option Metadata :=
  (volumeNameOf attacher caches task).bind fun name =>
    (caches.volume? name).map PersistentVolume.metadata

/-- A task is about a volume that nothing in the caches uses. -/
def isFree (attacher : Attacher) (caches : Caches) (task : Task) : Bool :=
  match task.subject with
  | .attachment => false
  | .volume => !isInUse attacher caches task.name

variable {finalizer : String} {snapshot : Option Metadata} {free : Bool} {state : Tenure}

/-- What was achieved does not matter any more. -/
def Regardless {α : Type} (_ : Tenure) (_ : Except Fault α) : Prop := True

/-- The volume carried the finalizer. -/
def Secured {α : Type} (state : Tenure) : Except Fault α → Prop
  | .ok _ => state.secured = true
  | .error _ => True

/-- Nothing is achieved or undone by reading secrets. -/
theorem publishSecrets_tenure (source : DriverSource) :
    Follows (tenure finalizer snapshot free) (fun later _ => later.secured = state.secured) state
      (publishSecrets source) := by
  unfold publishSecrets
  split
  · exact .ask trivial fun answer => by simp [tenure, Request.secures]
  · exact rfl

/-- Either the volume carries the finalizer already, or it is added. -/
theorem ensureFinalizers_tenure
    (attacher : Attacher)
    (attachment : VolumeAttachment)
    (volume : PersistentVolume)
    (nodeId : String)
    (carried : volume.metadata.hasFinalizer attacher.finalizer = true → state.secured = true) :
    Follows (tenure attacher.finalizer (some volume.metadata) free) Secured state
      (ensureFinalizers attacher attachment volume nodeId) := by
  have addsVolume (state : Tenure) :
      Follows (tenure attacher.finalizer (some volume.metadata) free) Secured state (do
        ofExcept (← (Request.addVolumeFinalizer volume attacher.finalizer).attempt)) := by
    refine .ask ⟨rfl, rfl⟩ ?_
    intro answer
    rw [follows_ofExcept]
    cases answer with
    | ok => simp [Secured, tenure, Request.secures]
    | error => trivial
  unfold ensureFinalizers
  split
  · split
    · exact .ask trivial fun _ => .check (fun _ _ => addsVolume _) fun _ _ => trivial
    · exact addsVolume _
  · next carries =>
    have secured : state.secured = true := carried (by simpa using carries)
    split
    · refine .ask trivial fun _ => .check (fun _ _ => ?_) fun _ _ => trivial
      exact Bool.or_eq_true_iff.mpr (.inl secured)
    · exact secured

theorem attach_tenure
    (attacher : Attacher)
    (honorsReadOnly : Bool)
    (caches : Caches)
    (attachment : VolumeAttachment)
    (ours : attachment.isFor attacher.driver = true) :
    let snapshot := (attachment.volumeFor attacher.driver).bind fun name =>
      (caches.volume? name).map PersistentVolume.metadata
    Follows (tenure attacher.finalizer snapshot free) Regardless
      ⟨snapshot.any (·.hasFinalizer attacher.finalizer), false⟩
      (attach attacher honorsReadOnly caches attachment) := by
  intro snapshot
  refine .check ?_ fun _ _ => trivial
  intro volume found
  have known : snapshot = some volume.metadata := by
    obtain ⟨name, refers, cached⟩ := Caches.volumeOf_eq_ok_iff.mp found
    simp [snapshot, VolumeAttachment.volumeFor, ours, refers, cached]
  rw [known]
  refine .check ?_ fun _ _ => trivial
  intro source _
  refine .check ?_ fun _ _ => trivial
  intro nodeId _
  refine (ensureFinalizers_tenure attacher attachment volume nodeId id).bind ?_ fun _ _ _ => trivial
  intro state _ secured
  refine .check ?_ fun _ _ => trivial
  intro access _
  refine (publishSecrets_tenure source).bind ?_ fun _ _ _ => trivial
  intro later secrets same
  refine .ask ⟨rfl, same.trans secured⟩ ?_
  intro reply
  split
  · exact .ask trivial fun _ => .ask trivial fun _ => trivial
  · exact .ask trivial fun _ => .ask trivial fun _ => trivial

theorem detach_tenure (attacher : Attacher) (caches : Caches) (attachment : VolumeAttachment) :
    Follows (tenure finalizer snapshot free) Regardless state
      (detach attacher caches attachment) := by
  refine .check ?_ fun _ _ => trivial
  intro volume _
  refine .check ?_ fun _ _ => trivial
  intro source _
  refine .check ?_ fun _ _ => trivial
  intro nodeId _
  refine (publishSecrets_tenure source).bind ?_ fun _ _ _ => trivial
  intro state secrets _
  refine .ask trivial ?_
  intro reply
  split
  · refine .ask trivial fun _ => .ask trivial fun _ => ?_
    exact .check (fun _ _ => .ask trivial fun _ => trivial) fun _ _ => trivial
  · exact .ask trivial fun _ => .ask trivial fun _ => trivial

theorem attachment_tenure (attacher : Attacher) (caches : Caches) (name : String) :
    let snapshot := volumeOf attacher caches ⟨.attachment, name⟩
    Follows (tenure attacher.finalizer snapshot free) Regardless
      ⟨snapshot.any (·.hasFinalizer attacher.finalizer), false⟩
      (attachment attacher caches name) := by
  intro snapshot
  unfold attachment
  split
  · exact trivial
  · next found cached =>
    split
    · next ours =>
      split
      · unfold markAttached
        split
        · exact trivial
        · exact .ask trivial fun _ => trivial
      · unfold driveAttachment
        dsimp only
        split
        · split
          · exact detach_tenure attacher caches found
          · exact trivial
        · split
          · have known : snapshot = (found.volumeFor attacher.driver).bind fun name =>
                (caches.volume? name).map PersistentVolume.metadata := by
              simp [snapshot, volumeOf, volumeNameOf, cached]
            rw [known]
            exact attach_tenure attacher _ caches found ours
          · exact trivial
    · exact trivial

theorem volume_tenure (attacher : Attacher) (caches : Caches) (name : String) (secured : Bool) :
    Follows (tenure attacher.finalizer (volumeOf attacher caches ⟨.volume, name⟩)
        (isFree attacher caches ⟨.volume, name⟩)) Regardless
      ⟨secured, false⟩ (volume attacher caches name) := by
  unfold volume
  split
  · exact trivial
  · next found cached =>
    split
    · next releases =>
      obtain ⟨⟨deleting, -⟩, free⟩ : (found.metadata.isDeleting = true ∧
          found.metadata.hasFinalizer attacher.finalizer = true) ∧
            isInUse attacher caches name = false := by
        simpa [Bool.and_eq_true_iff] using releases
      refine .ask ⟨?_, rfl, deleting, ?_, rfl⟩ fun _ => trivial
      · simp [volumeOf, volumeNameOf, cached]
      · simp [isFree, free]
    · exact trivial

/-- Every reconciliation keeps to the rules of its volume. -/
theorem ofTask_tenure (attacher : Attacher) (caches : Caches) (task : Task) :
    Follows (tenure attacher.finalizer (volumeOf attacher caches task)
        (isFree attacher caches task)) Regardless
      ⟨(volumeOf attacher caches task).any (·.hasFinalizer attacher.finalizer), false⟩
      (ofTask attacher caches task) := by
  obtain ⟨subject, name⟩ := task
  cases subject with
  | attachment => exact attachment_tenure attacher caches name
  | volume => exact volume_tenure attacher caches name _

end Reconciliation

end VolumeAttacher
