import VolumeAttacher.Attachment.Status
import VolumeAttacher.Cluster.Object
import VolumeAttacher.Dialogue
import VolumeAttacher.Driver.Call
import VolumeAttacher.Driver.Name

/-!
# Requests of the reconciler

What the reconciliation of one object asks of the cluster and of the driver, and the settings and
caches it decides by.
-/

namespace VolumeAttacher

/-- Whether a volume is attached to a node or detached from it. -/
inductive Operation where
  | attach | detach
  deriving DecidableEq

def Operation.name : Operation → String
  | .attach => "attach"
  | .detach => "detach"

/-- What the attacher works for and how. -/
structure Attacher where
  driver : DriverName
  strategy : Strategy
  /-- The time that a driver call may take. -/
  timeout : Duration

/-- The finalizer that keeps the objects of the attacher's driver. -/
def Attacher.finalizer (attacher : Attacher) : String := attacher.driver.finalizer

/-- A request of the reconciler. -/
inductive Request where
  /-- Add a finalizer to an attachment as it is cached, and remember what its node is called. -/
  | addAttachmentFinalizer (attachment : VolumeAttachment) (finalizer nodeId : String)
  /-- Remove a finalizer from an attachment as it is cached. -/
  | removeAttachmentFinalizer (attachment : VolumeAttachment) (finalizer : String)
  /-- Change the status of an attachment. -/
  | patchStatus (name : String) (patch : StatusPatch)
  /-- Add a finalizer to a volume as it is cached. -/
  | addVolumeFinalizer (volume : PersistentVolume) (finalizer : String)
  /-- Remove a finalizer from a volume as it is cached. -/
  | removeVolumeFinalizer (volume : PersistentVolume) (finalizer : String)
  /-- Read a secret. -/
  | getSecret (nameSpace name : String)
  /-- Have the driver publish a volume. -/
  | publish (request : PublishRequest) (timeout : Duration)
  /-- Have the driver withdraw a volume. -/
  | unpublish (request : UnpublishRequest) (timeout : Duration)
  /-- Count a driver call in the metrics. -/
  | record (operation : Operation) (success : Bool)

/-- The type of the answers to a request. -/
abbrev Request.Answer : Request → Type
  | .addAttachmentFinalizer _ _ _ => Except Fault Unit
  | .removeAttachmentFinalizer _ _ => Except Fault Unit
  | .patchStatus _ _ => Except Fault Unit
  | .addVolumeFinalizer _ _ => Except Fault Unit
  | .removeVolumeFinalizer _ _ => Except Fault Unit
  | .getSecret _ _ => Except Fault Json.TextMap
  | .publish _ _ => Reply Json.TextMap
  | .unpublish _ _ => Reply Unit
  | .record _ _ => Unit

/-- A reconciliation: a dialogue of requests that ends in a fault or a result. -/
abbrev Reconciliation (α : Type) := ExceptT Fault (Dialogue Request Request.Answer) α

/-- A request whose answer is taken as it is. -/
def Request.attempt (request : Request) : Reconciliation request.Answer :=
  ExceptT.lift (Dialogue.question request)

namespace Reconciliation

/-- A result, or a fault that ends the reconciliation. -/
def ofExcept {α : Type} (result : Except Fault α) : Reconciliation α :=
  ExceptT.mk (.done result)

end Reconciliation

/-- The cached objects of the cluster. -/
structure Caches where
  attachments : List VolumeAttachment
  volumes : List PersistentVolume
  nodes : List Node
  registrations : List NodeRegistration

namespace Caches

def empty : Caches := ⟨[], [], [], []⟩

def attachment? (caches : Caches) (name : String) : Option VolumeAttachment :=
  caches.attachments.find? (·.name = name)

def volume? (caches : Caches) (name : String) : Option PersistentVolume :=
  caches.volumes.find? (·.name = name)

def node? (caches : Caches) (name : String) : Option Node :=
  caches.nodes.find? (·.metadata.nameText = name)

def registration? (caches : Caches) (name : String) : Option NodeRegistration :=
  caches.registrations.find? (·.metadata.nameText = name)

/-- The volume that an attachment refers to. -/
def volumeOf (caches : Caches) (attachment : VolumeAttachment) : Except Fault PersistentVolume := do
  let name ← match attachment.volumeName with
    | some name => pure name
    | none => throw (.invalidAttachment attachment.name .notPersistentVolume)
  match caches.volume? name with
  | some volume => return volume
  | none => throw (.notFound "PersistentVolume" name)

end Caches

end VolumeAttacher
