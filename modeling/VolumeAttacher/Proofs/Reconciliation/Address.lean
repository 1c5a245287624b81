import VolumeAttacher.Proofs.Reconciliation.Custody

/-!
# What the driver calls the node

A reconciliation looks up once what the driver calls the node of its attachment. That is what it
asks the cluster to remember when it adds the finalizer, and what it tells the driver when it has
the volume published or withdrawn.
-/

namespace VolumeAttacher

namespace Reconciliation

variable {attacher : Attacher} {caches : Caches} {attachment : VolumeAttachment}
  {snapshot : Option VolumeAttachment} {finalized : Bool} {id : String}

/-- What the driver calls the node of an attachment by what is registered and annotated there. -/
def namedNodeId?
    (attacher : Attacher)
    (caches : Caches)
    (attachment : VolumeAttachment) : Option String :=
  (nonempty? ((caches.registration? attachment.nodeName).bind (·.nodeId? attacher.driver))).or
    (nonempty? ((caches.node? attachment.nodeName).bind (·.nodeId? attacher.driver)))

/-- What is remembered counts if nothing is registered or annotated. -/
theorem nodeIdOf_eq_ok_iff :
    nodeIdOf attacher caches attachment = .ok id ↔
      (namedNodeId? attacher caches attachment).or (nonempty? attachment.rememberedNodeId?) =
        some id := by
  unfold nodeIdOf nodeId namedNodeId?
  dsimp only
  rw [Option.or_assoc, Option.bind_some]
  split
  · next found => simp [found]
  · next missing => simp [missing]

theorem ne_empty_of_nonempty? {text : Option String} (found : nonempty? text = some id) :
    id ≠ "" := by
  unfold nonempty? at found
  simpa using (Option.filter_eq_some_iff.mp found).2

theorem ne_empty_of_nodeIdOf (found : nodeIdOf attacher caches attachment = .ok id) : id ≠ "" := by
  rw [nodeIdOf_eq_ok_iff, namedNodeId?, Option.or_eq_some_iff, Option.or_eq_some_iff] at found
  obtain (registered | ⟨-, annotated⟩) | ⟨-, remembered⟩ := found
  · exact ne_empty_of_nonempty? registered
  · exact ne_empty_of_nonempty? annotated
  · exact ne_empty_of_nonempty? remembered

/-- What may be asked about the node of an attachment as it was cached, if it was. The state says
whether the attachment carried the finalizer. -/
def addressing (attacher : Attacher) (caches : Caches) (snapshot : Option VolumeAttachment) :
    Protocol Request Request.Answer Bool where
  permits finalized
    | .addAttachmentFinalizer attachment added nodeId =>
      snapshot = some attachment ∧ added = attacher.finalizer ∧
        attachment.metadata.isDeleting = false ∧
        attachment.metadata.hasFinalizer attacher.finalizer = false ∧
        nodeIdOf attacher caches attachment = .ok nodeId
    | .removeAttachmentFinalizer attachment removed =>
      snapshot = some attachment ∧ removed = attacher.finalizer ∧
        attachment.metadata.isDeleting = true
    | .publish request _ =>
      ∃ attachment, snapshot = some attachment ∧ finalized = true ∧
        nodeIdOf attacher caches attachment = .ok request.nodeId
    | .unpublish request _ =>
      ∃ attachment, snapshot = some attachment ∧
        attachment.metadata.hasFinalizer attacher.finalizer = true ∧
        nodeIdOf attacher caches attachment = .ok request.nodeId
    | .patchStatus _ _ | .addVolumeFinalizer _ _ | .removeVolumeFinalizer _ _ => True
    | .getSecret _ _ | .record _ _ => True
  advance finalized request answer := finalized || request.finalizes answer

/-- However it ended. -/
def Anyhow {α : Type} (_ : Bool) (_ : Except Fault α) : Prop := True

/-- The attachment carried the finalizer, unless there was a fault. -/
def Carried {α : Type} (finalized : Bool) : Except Fault α → Prop
  | .ok _ => finalized = true
  | .error _ => True

theorem publishSecrets_addressing (source : DriverSource) :
    Follows (addressing attacher caches snapshot) (fun later _ => later = finalized) finalized
      (publishSecrets source) := by
  unfold publishSecrets
  split
  · exact .ask trivial fun answer => by simp [addressing, Request.finalizes]
  · exact rfl

/-- What is remembered with the finalizer is what the driver calls the node. -/
theorem ensureFinalizers_addressing
    (volume : PersistentVolume)
    (wanted : attachment.metadata.isDeleting = false)
    (found : nodeIdOf attacher caches attachment = .ok id) :
    Follows (addressing attacher caches (some attachment)) Carried
      (attachment.metadata.hasFinalizer attacher.finalizer)
      (ensureFinalizers attacher attachment volume id) := by
  have addsVolume {finalized : Bool} (carried : finalized = true) :
      Follows (addressing attacher caches (some attachment)) Carried finalized (do
        ofExcept (← (Request.addVolumeFinalizer volume attacher.finalizer).attempt)) := by
    refine .ask trivial ?_
    intro answer
    rw [follows_ofExcept]
    cases answer with
    | ok => simp [Carried, addressing, carried]
    | error => trivial
  have confirmed (answer : Except Fault Unit) (accepted : answer = .ok ()) :
      (addressing attacher caches (some attachment)).advance
        (attachment.metadata.hasFinalizer attacher.finalizer)
        (.addAttachmentFinalizer attachment attacher.finalizer id) answer = true := by
    simp [addressing, Request.finalizes, accepted]
  unfold ensureFinalizers
  split
  · split
    · next lacks =>
      refine .ask ⟨rfl, rfl, wanted, by simpa using lacks, found⟩ fun answer => ?_
      exact .check (fun _ accepted => addsVolume (confirmed answer accepted)) fun _ _ => trivial
    · next carries => exact addsVolume (by simpa using carries)
  · split
    · next lacks =>
      refine .ask ⟨rfl, rfl, wanted, by simpa using lacks, found⟩ fun answer => ?_
      exact .check (fun _ accepted => confirmed answer accepted) fun _ _ => trivial
    · next carries =>
      have carries : attachment.metadata.hasFinalizer attacher.finalizer = true := by
        simpa using carries
      exact carries

theorem attach_addressing
    (honorsReadOnly : Bool)
    (wanted : attachment.metadata.isDeleting = false) :
    Follows (addressing attacher caches (some attachment)) Anyhow
      (attachment.metadata.hasFinalizer attacher.finalizer)
      (attach attacher honorsReadOnly caches attachment) := by
  refine .check ?_ fun _ _ => trivial
  intro volume _
  refine .check ?_ fun _ _ => trivial
  intro source _
  refine .check ?_ fun _ _ => trivial
  intro nodeId found
  refine (ensureFinalizers_addressing volume wanted found).bind ?_ fun _ _ _ => trivial
  intro finalized _ carried
  refine .check ?_ fun _ _ => trivial
  intro access _
  refine (publishSecrets_addressing source).bind ?_ fun _ _ _ => trivial
  intro later secrets same
  refine .ask ⟨attachment, rfl, same.trans carried, found⟩ ?_
  intro reply
  split
  · exact .ask trivial fun _ => .ask trivial fun _ => trivial
  · exact .ask trivial fun _ => .ask trivial fun _ => trivial

theorem detach_addressing
    (unwanted : attachment.metadata.isDeleting = true)
    (carries : attachment.metadata.hasFinalizer attacher.finalizer = true) :
    Follows (addressing attacher caches (some attachment)) Anyhow finalized
      (detach attacher caches attachment) := by
  refine .check ?_ fun _ _ => trivial
  intro volume _
  refine .check ?_ fun _ _ => trivial
  intro source _
  refine .check ?_ fun _ _ => trivial
  intro nodeId found
  refine (publishSecrets_addressing source).bind ?_ fun _ _ _ => trivial
  intro later secrets _
  refine .ask ⟨attachment, rfl, carries, found⟩ ?_
  intro reply
  split
  · refine .ask trivial fun _ => .ask ⟨rfl, rfl, unwanted⟩ fun _ => ?_
    exact .check (fun _ _ => .ask trivial fun _ => trivial) fun _ _ => trivial
  · exact .ask trivial fun _ => .ask trivial fun _ => trivial

/-- The reconciliation of an attachment always tells the same of its node. -/
theorem attachment_addressing (attacher : Attacher) (caches : Caches) (name : String) :
    Follows (addressing attacher caches (caches.attachment? name)) Anyhow
      ((caches.attachment? name).any (·.metadata.hasFinalizer attacher.finalizer))
      (Reconciliation.attachment attacher caches name) := by
  unfold Reconciliation.attachment
  split
  · exact trivial
  · next found cached =>
    rw [cached, Option.any_some]
    split
    · split
      · unfold markAttached
        split
        · exact trivial
        · exact .ask trivial fun _ => trivial
      · unfold driveAttachment
        dsimp only
        split
        · next unwanted =>
          split
          · next carries => exact detach_addressing unwanted carries
          · exact trivial
        · next wanted =>
          split
          · exact attach_addressing _ (by simpa using wanted)
          · exact trivial
    · exact trivial

end Reconciliation

end VolumeAttacher
