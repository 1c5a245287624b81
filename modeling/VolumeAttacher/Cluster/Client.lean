import VolumeAttacher.Attachment.Status
import VolumeAttacher.Cluster.Exchange
import VolumeAttacher.Cluster.Object
import VolumeAttacher.Text.Base64
import VolumeAttacher.Text.Utf8
import VolumeAttacher.Volume

/-!
# The attacher's requests to the cluster

The patches of finalizers and of status, and the reading of secrets. A patch of finalizers carries
the version of the object that it was made from, so it never undoes a change that was not seen.
-/

namespace VolumeAttacher
namespace ClusterClient

/-- Finalizers with one more at the end, unless it is there. -/
def withFinalizer (finalizers : List String) (finalizer : String) : List String :=
  if finalizer ∈ finalizers then finalizers else finalizers ++ [finalizer]

/-- Finalizers without one of them. -/
def withoutFinalizer (finalizers : List String) (finalizer : String) : List String :=
  finalizers.filter (· ≠ finalizer)

/-- A text, or null. -/
def orNull : Option String → Json
  | some text => .text text
  | none => .null

/-- The patch that gives an object other finalizers, and more metadata. -/
def finalizerPatch
    (metadata : Metadata)
    (finalizers : List String)
    (others : List (String × Json)) : Json :=
  .object [("metadata", .object
    ([("resourceVersion", orNull metadata.resourceVersion),
      ("finalizers", .ofTexts finalizers)] ++ others))]

/-- The patch that adds a finalizer to an attachment and remembers what its node is called. -/
def attachmentFinalizerPatch (metadata : Metadata) (finalizer nodeId : String) : Json :=
  finalizerPatch metadata (withFinalizer metadata.finalizers finalizer)
    [("annotations", .object [(attachmentNodeIdKey, .text nodeId)])]

def addAttachmentFinalizer
    (attachment : VolumeAttachment)
    (finalizer nodeId : String) : ClusterRequest :=
  ⟨.patch, Resource.attachment.path none attachment.name,
    some (attachmentFinalizerPatch attachment.metadata finalizer nodeId)⟩

def removeAttachmentFinalizer
    (attachment : VolumeAttachment)
    (finalizer : String) : ClusterRequest :=
  let metadata := attachment.metadata
  ⟨.patch, Resource.attachment.path none attachment.name,
    some (finalizerPatch metadata (withoutFinalizer metadata.finalizers finalizer) [])⟩

def addVolumeFinalizer (volume : PersistentVolume) (finalizer : String) : ClusterRequest :=
  let metadata := volume.metadata
  ⟨.patch, Resource.volume.path none volume.name,
    some (finalizerPatch metadata (withFinalizer metadata.finalizers finalizer) [])⟩

def removeVolumeFinalizer (volume : PersistentVolume) (finalizer : String) : ClusterRequest :=
  let metadata := volume.metadata
  ⟨.patch, Resource.volume.path none volume.name,
    some (finalizerPatch metadata (withoutFinalizer metadata.finalizers finalizer) [])⟩

/-- Merge a value into the status of an attachment. -/
def patchStatus (name : String) (status : Json) : ClusterRequest :=
  ⟨.patch, Resource.attachment.path none name ++ "/status", some (.object [("status", status)])⟩

def getSecret (nameSpace name : String) : ClusterRequest :=
  ⟨.get, Resource.secret.path (some nameSpace) name, none⟩

/-- Whether a write to an attachment succeeded. -/
def attachmentWritten (response : ClusterResponse) : Except Fault Unit :=
  match response.object VolumeAttachment.ofJson? with
  | .ok _ => .ok ()
  | .error problem => .error (.cluster problem)

/-- Whether a write to a volume succeeded. -/
def volumeWritten (response : ClusterResponse) : Except Fault Unit :=
  match response.object PersistentVolume.ofJson? with
  | .ok _ => .ok ()
  | .error problem => .error (.cluster problem)

/-- An entry of a secret's data: octets in Base64, whose text it is as far as they are text. -/
def dataEntry? (member : String × Json) : Option (String × String) := do
  let octets ← Text.ofBase64? (← member.2.text?).toList
  return (member.1, Text.ofOctetsReplacing octets)

/-- The contents of a secret: its data, and over these its plain texts. -/
def secretOfJson? (value : Json) : Option Json.TextMap := do
  if !value.isOfKind .secret then failure
  let _ ← value.metadata?
  let data ← value.optional "data" fun found => do (← found.object?).mapM dataEntry?
  let texts ← value.optional "stringData" Json.textMap?
  return Json.TextMap.ofList (data.getD [] ++ texts.getD [])

/-- The contents of a secret that was asked for. -/
def secretFound
    (nameSpace name : String)
    (response : ClusterResponse) : Except Fault Json.TextMap :=
  match response.object? secretOfJson? with
  | .error problem => .error (.cluster problem)
  | .ok none => .error (.notFound "Secret" (nameSpace ++ "/" ++ name))
  | .ok (some contents) => .ok contents

end ClusterClient

end VolumeAttacher
