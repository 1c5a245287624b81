import VolumeAttacher.Reconciliation.Request
import VolumeAttacher.Volume

/-!
# Reconciling attachments

An attachment that is wanted gets the finalizers, the driver's call and the status in this order;
one that is being deleted gets the driver's call, loses the finalizer, and then its status. A failed
driver call is reported in the status, and is the result of the reconciliation whether or not the
report succeeds.
-/

namespace VolumeAttacher
namespace Reconciliation

/-- What the driver calls the node of an attachment. -/
def nodeIdOf
    (attacher : Attacher)
    (caches : Caches)
    (attachment : VolumeAttachment) : Except Fault String :=
  nodeId attachment.nodeName attacher.driver (caches.registration? attachment.nodeName)
    (caches.node? attachment.nodeName) (some attachment)

/-- The secrets that a source refers to, if it names both the secret and its namespace. -/
def publishSecrets (source : DriverSource) : Reconciliation Json.TextMap :=
  match source.publishSecret with
  | some ⟨some name, some nameSpace⟩ => do
    ofExcept (← (Request.getSecret nameSpace name).attempt)
  | _ => return []

/-- Have the finalizer on an attachment as it is cached, and on a volume as it is cached. -/
def ensureFinalizers
    (attacher : Attacher)
    (attachment : VolumeAttachment)
    (volume : PersistentVolume)
    (nodeId : String) : Reconciliation Unit := do
  if !attachment.metadata.hasFinalizer attacher.finalizer then
    ofExcept (← (Request.addAttachmentFinalizer attachment attacher.finalizer nodeId).attempt)
  if !volume.metadata.hasFinalizer attacher.finalizer then
    ofExcept (← (Request.addVolumeFinalizer volume attacher.finalizer).attempt)

/-- Attach a volume to the node of an attachment. -/
def attach
    (attacher : Attacher)
    (honorsReadOnly : Bool)
    (caches : Caches)
    (attachment : VolumeAttachment) : Reconciliation Unit := do
  let volume ← ofExcept (caches.volumeOf attachment)
  let source ← ofExcept (volume.sourceFor attacher.driver)
  let nodeId ← ofExcept (nodeIdOf attacher caches attachment)
  ensureFinalizers attacher attachment volume nodeId
  let access ← ofExcept (volume.access source)
  let secrets ← publishSecrets source
  let request : PublishRequest :=
    ⟨source.handle, nodeId, access, volume.isReadOnly source, secrets, source.attributes⟩
  let reply ← (Request.publish (request.masked honorsReadOnly) attacher.timeout).attempt
  match reply.result publishOperation attacher.timeout with
  | .ok metadata => do
    (Request.record .attach true).attempt
    ofExcept (← (Request.patchStatus attachment.name (.attached metadata)).attempt)
  | .error fault => do
    (Request.record .attach false).attempt
    let _ ← (Request.patchStatus attachment.name (.attachFailed fault.message)).attempt
    throw fault

/-- Detach a volume from the node of an attachment. The finalizer is removed by the version that is
cached, so it goes before the status, whose change makes a new version. -/
def detach
    (attacher : Attacher)
    (caches : Caches)
    (attachment : VolumeAttachment) : Reconciliation Unit := do
  let volume ← ofExcept (caches.volumeOf attachment)
  let source ← ofExcept (volume.sourceFor attacher.driver)
  let nodeId ← ofExcept (nodeIdOf attacher caches attachment)
  let secrets ← publishSecrets source
  let request : UnpublishRequest := ⟨source.handle, nodeId, secrets⟩
  let reply ← (Request.unpublish request attacher.timeout).attempt
  match reply.result unpublishOperation attacher.timeout with
  | .ok () => do
    (Request.record .detach true).attempt
    ofExcept (← (Request.removeAttachmentFinalizer attachment attacher.finalizer).attempt)
    let _ ← (Request.patchStatus attachment.name .detached).attempt
  | .error fault => do
    (Request.record .detach false).attempt
    let _ ← (Request.patchStatus attachment.name (.detachFailed fault.message)).attempt
    throw fault

/-- Mark an attachment as attached without asking a driver. -/
def markAttached (attachment : VolumeAttachment) : Reconciliation Unit := do
  if attachment.metadata.isDeleting || attachment.attached then return
  ofExcept (← (Request.patchStatus attachment.name (.attached [])).attempt)

/-- Bring an attachment to its desired state with the driver. -/
def driveAttachment
    (attacher : Attacher)
    (honorsReadOnly : Bool)
    (caches : Caches)
    (attachment : VolumeAttachment) : Reconciliation Unit := do
  let finalized := attachment.metadata.hasFinalizer attacher.finalizer
  if attachment.metadata.isDeleting then
    if finalized then detach attacher caches attachment
  else if !(attachment.attached && finalized) then
    attach attacher honorsReadOnly caches attachment

/-- Bring the attachment of a name to its desired state. -/
def attachment (attacher : Attacher) (caches : Caches) (name : String) : Reconciliation Unit := do
  match caches.attachment? name with
  | none => return
  | some attachment =>
    if attachment.isFor attacher.driver then
      match attacher.strategy with
      | .trivial => markAttached attachment
      | .driverBacked honorsReadOnly => driveAttachment attacher honorsReadOnly caches attachment

end Reconciliation

end VolumeAttacher
