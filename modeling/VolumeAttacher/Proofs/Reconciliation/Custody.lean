import VolumeAttacher.Controller
import VolumeAttacher.Proofs.Reconciliation.Protocol

/-!
# The order of finalizers and driver calls

A reconciliation works on one attachment as it was cached. It asks the driver to publish the volume
only while the attachment is wanted and after it carried the finalizer, and takes the finalizer away
only from an attachment that is being deleted and after the driver withdrew the volume.
-/

namespace VolumeAttacher

/-- What a reconciliation achieved for its attachment. -/
structure Custody where
  /-- The attachment carried the finalizer. -/
  finalized : Bool
  /-- The driver withdrew the volume. -/
  withdrawn : Bool

namespace Request

/-- A request by which the driver withdrew a volume. -/
def withdraws : (request : Request) → request.Answer → Bool
  | .unpublish _ timeout, reply =>
    match reply.result unpublishOperation timeout with
    | .ok () => true
    | .error _ => false
  | _, _ => false

/-- A request by which an attachment was given a finalizer. -/
def finalizes : (request : Request) → request.Answer → Bool
  | .addAttachmentFinalizer _ _ _, .ok () => true
  | _, _ => false

end Request

namespace Reconciliation

variable {finalizer : String} {snapshot : Option VolumeAttachment}

/-- What may be asked for an attachment as it was cached, if it was. -/
def custody (finalizer : String) (snapshot : Option VolumeAttachment) :
    Protocol Request Request.Answer Custody where
  permits state
    | .addAttachmentFinalizer attachment added _ =>
      snapshot = some attachment ∧ added = finalizer ∧ attachment.metadata.isDeleting = false
    | .removeAttachmentFinalizer attachment removed =>
      snapshot = some attachment ∧ removed = finalizer ∧ state.withdrawn = true
    | .publish _ _ =>
      ∃ attachment, snapshot = some attachment ∧ attachment.metadata.isDeleting = false ∧
        state.finalized = true
    | .unpublish _ _ =>
      ∃ attachment, snapshot = some attachment ∧ attachment.metadata.isDeleting = true
    | .patchStatus _ _ | .addVolumeFinalizer _ _ | .removeVolumeFinalizer _ _ => True
    | .getSecret _ _ | .record _ _ => True
  advance state request answer :=
    ⟨state.finalized || request.finalizes answer, state.withdrawn || request.withdraws answer⟩

/-- The attachment carried the finalizer. -/
def Finalized {α : Type} (state : Custody) : Except Fault α → Prop
  | .ok _ => state.finalized = true
  | .error _ => True

/-- What was achieved does not matter any more. -/
def Whatever {α : Type} (_ : Custody) (_ : Except Fault α) : Prop := True

/-- Nothing is achieved or undone by reading secrets. -/
theorem publishSecrets_custody
    {state : Custody}
    (achieved : Custody → Prop)
    (source : DriverSource)
    (already : achieved state) :
    Follows (custody finalizer snapshot) (fun state _ => achieved state) state
      (publishSecrets source) := by
  unfold publishSecrets
  split
  · exact .ask trivial fun answer => by simpa [custody, Request.finalizes, Request.withdraws]
  · exact already

/-- Either the attachment carries the finalizer already, or it is added first. -/
theorem ensureFinalizers_custody
    (attacher : Attacher)
    (attachment : VolumeAttachment)
    (volume : PersistentVolume)
    (nodeId : String)
    (wanted : attachment.metadata.isDeleting = false) :
    Follows (custody attacher.finalizer (some attachment)) Finalized
      ⟨attachment.metadata.hasFinalizer attacher.finalizer, false⟩
      (ensureFinalizers attacher attachment volume nodeId) := by
  have confirmed (answer : Except Fault Unit) (accepted : answer = .ok ()) :
      ((custody attacher.finalizer (some attachment)).advance
        ⟨attachment.metadata.hasFinalizer attacher.finalizer, false⟩
        (.addAttachmentFinalizer attachment attacher.finalizer nodeId) answer).finalized =
          true := by
    simp [custody, Request.finalizes, accepted]
  have addsVolume (state : Custody) (finalized : state.finalized = true) :
      Follows (custody attacher.finalizer (some attachment)) Finalized state (do
        ofExcept (← (Request.addVolumeFinalizer volume attacher.finalizer).attempt)) := by
    refine .ask trivial ?_
    intro answer
    rw [follows_ofExcept]
    cases answer with
    | ok => simpa [Finalized, custody] using Or.inl finalized
    | error => trivial
  unfold ensureFinalizers
  split
  · split
    · refine .ask ⟨rfl, rfl, wanted⟩ fun answer => .check ?_ fun _ _ => trivial
      intro _ accepted
      exact addsVolume _ (confirmed answer accepted)
    · next carried => exact addsVolume _ (by simpa using carried)
  · split
    · refine .ask ⟨rfl, rfl, wanted⟩ fun answer => .check (fun _ accepted => ?_) fun _ _ => trivial
      exact confirmed answer accepted
    · next carried =>
      have carries : attachment.metadata.hasFinalizer attacher.finalizer = true := by
        simpa using carried
      exact carries

theorem attach_custody
    (attacher : Attacher)
    (honorsReadOnly : Bool)
    (caches : Caches)
    (attachment : VolumeAttachment)
    (wanted : attachment.metadata.isDeleting = false) :
    Follows (custody attacher.finalizer (some attachment)) Whatever
      ⟨attachment.metadata.hasFinalizer attacher.finalizer, false⟩
      (attach attacher honorsReadOnly caches attachment) := by
  refine .check ?_ fun _ _ => trivial
  intro volume _
  refine .check ?_ fun _ _ => trivial
  intro source _
  refine .check ?_ fun _ _ => trivial
  intro nodeId _
  refine (ensureFinalizers_custody attacher attachment volume nodeId wanted).bind ?_
    fun _ _ _ => trivial
  intro state _ finalized
  refine .check ?_ fun _ _ => trivial
  intro access _
  refine (publishSecrets_custody (fun state => state.finalized = true) source finalized).bind ?_
    fun _ _ _ => trivial
  intro state secrets finalized
  refine .ask ⟨attachment, rfl, wanted, finalized⟩ ?_
  intro reply
  split
  · exact .ask trivial fun _ => .ask trivial fun _ => trivial
  · exact .ask trivial fun _ => .ask trivial fun _ => trivial

theorem detach_custody
    (attacher : Attacher)
    (caches : Caches)
    (attachment : VolumeAttachment)
    (state : Custody)
    (unwanted : attachment.metadata.isDeleting = true) :
    Follows (custody attacher.finalizer (some attachment)) Whatever state
      (detach attacher caches attachment) := by
  refine .check ?_ fun _ _ => trivial
  intro volume _
  refine .check ?_ fun _ _ => trivial
  intro source _
  refine .check ?_ fun _ _ => trivial
  intro nodeId _
  refine (publishSecrets_custody (fun _ => True) source trivial).bind ?_ fun _ _ _ => trivial
  intro state secrets _
  refine .ask ⟨attachment, rfl, unwanted⟩ ?_
  intro reply
  split
  · next withdrawn =>
    refine .ask trivial fun _ => .ask ⟨rfl, rfl, ?_⟩ ?_
    · simp [custody, Request.withdraws, withdrawn]
    · intro _
      exact .check (fun _ _ => .ask trivial fun _ => trivial) fun _ _ => trivial
  · exact .ask trivial fun _ => .ask trivial fun _ => trivial

theorem attachment_custody (attacher : Attacher) (caches : Caches) (name : String) :
    Follows (custody attacher.finalizer (caches.attachment? name)) Whatever
      ⟨(caches.attachment? name).any (·.metadata.hasFinalizer attacher.finalizer), false⟩
      (attachment attacher caches name) := by
  unfold attachment
  split
  · exact trivial
  · next found cached =>
    rw [cached, Option.any_some]
    split
    · split
      · unfold markAttached
        split
        · exact trivial
        · exact .ask trivial fun _ => trivial
      · unfold driveAttachment
        dsimp only
        split
        · next unwanted =>
          split
          · exact detach_custody attacher caches found _ unwanted
          · exact trivial
        · next wanted =>
          split
          · exact attach_custody attacher _ caches found (by simpa using wanted)
          · exact trivial
    · exact trivial

theorem volume_custody (attacher : Attacher) (caches : Caches) (name : String) (state : Custody) :
    Follows (custody finalizer none) Whatever state (volume attacher caches name) := by
  unfold volume
  split
  · exact trivial
  · split
    · exact .ask trivial fun _ => trivial
    · exact trivial

/-- The attachment that a reconciliation works on. -/
def snapshotOf (caches : Caches) (task : Task) : Option VolumeAttachment :=
  match task.subject with
  | .attachment => caches.attachment? task.name
  | .volume => none

/-- Every reconciliation keeps to the order. -/
theorem ofTask_custody (attacher : Attacher) (caches : Caches) (task : Task) :
    Follows (custody attacher.finalizer (snapshotOf caches task)) Whatever
      ⟨(snapshotOf caches task).any (·.metadata.hasFinalizer attacher.finalizer), false⟩
      (ofTask attacher caches task) := by
  obtain ⟨subject, name⟩ := task
  cases subject with
  | attachment => exact attachment_custody attacher caches name
  | volume => exact volume_custody attacher caches name _

end Reconciliation

end VolumeAttacher
