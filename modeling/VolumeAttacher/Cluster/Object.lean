import VolumeAttacher.Cluster.Resource
import VolumeAttacher.Json
import VolumeAttacher.Timestamp.Reader

/-!
# Cluster objects

What is kept of the objects that the attacher watches and reads. An object is read from its JSON
form; members that are not kept are skipped, and null means absent.
-/

namespace VolumeAttacher

/-- What every object has. -/
structure Metadata where
  name : Option String
  resourceVersion : Option String
  finalizers : List String
  annotations : Json.TextMap
  deletionTime : Option Timestamp
  deriving DecidableEq, Inhabited

/-- A request to attach a volume to a node. -/
structure VolumeAttachment where
  metadata : Metadata
  attacher : String
  nodeName : String
  volumeName : Option String
  attached : Bool
  deriving DecidableEq, Inhabited

/-- Where a secret is. -/
structure SecretReference where
  name : Option String
  nameSpace : Option String
  deriving DecidableEq

/-- The part of a volume that its driver understands. -/
structure DriverSource where
  driver : String
  handle : String
  fileSystem : Option String
  readOnly : Bool
  attributes : Json.TextMap
  publishSecret : Option SecretReference
  deriving DecidableEq

/-- A source that says nothing. -/
def DriverSource.empty : DriverSource := ⟨"", "", none, false, [], none⟩

/-- What a volume is. -/
structure VolumeSpec where
  accessModes : List String
  volumeMode : Option String
  mountOptions : List String
  source : Option DriverSource
  deriving DecidableEq

/-- A volume of the cluster. -/
structure PersistentVolume where
  metadata : Metadata
  spec : Option VolumeSpec
  deriving DecidableEq, Inhabited

/-- A node of the cluster. -/
structure Node where
  metadata : Metadata
  deriving DecidableEq, Inhabited

/-- What a driver calls a node. -/
structure DriverRegistration where
  driver : String
  nodeId : String
  deriving DecidableEq

/-- The drivers registered on a node. -/
structure NodeRegistration where
  metadata : Metadata
  drivers : List DriverRegistration
  deriving DecidableEq, Inhabited

namespace Metadata

/-- The name, which is empty for an object without one. -/
def nameText (metadata : Metadata) : String := metadata.name.getD ""

/-- The object is being deleted. -/
def isDeleting (metadata : Metadata) : Bool := metadata.deletionTime.isSome

def hasFinalizer (metadata : Metadata) (finalizer : String) : Bool :=
  finalizer ∈ metadata.finalizers

/-- The value of an annotation. -/
def annotation? (metadata : Metadata) (name : String) : Option String :=
  metadata.annotations.lookup name

def empty : Metadata := ⟨none, none, [], [], none⟩

def ofJson? (value : Json) : Option Metadata := do
  if !value.isObject then failure
  return {
    name := ← value.optional "name" Json.text?
    resourceVersion := ← value.optional "resourceVersion" Json.text?
    finalizers := (← value.optional "finalizers" Json.texts?).getD []
    annotations := (← value.optional "annotations" Json.textMap?).getD []
    deletionTime := ← value.optional "deletionTimestamp" fun time => do
      Timestamp.ofText? (← time.text?) }

end Metadata

namespace Json

/-- Whether an object is of a kind, as far as it says so. -/
def isOfKind (value : Json) (resource : Resource) : Bool :=
  let agrees (name expected : String) : Bool :=
    match value with
    | .object members =>
      match Json.lookup name members with
      | none => true
      | some found => match found with
        | .text actual => actual = expected
        | _ => false
    | _ => false
  agrees "apiVersion" resource.apiVersion && agrees "kind" resource.kind

/-- The metadata of an object, which may be absent. -/
def metadata? (value : Json) : Option Metadata := do
  return (← value.optional "metadata" Metadata.ofJson?).getD Metadata.empty

/-- A member text, empty if absent. -/
def textMember (value : Json) (name : String) : Option String := do
  return (← value.optional name text?).getD ""

/-- A member that is an object; an absent one is empty. -/
def objectMember (value : Json) (name : String) : Option Json :=
  match value.member? name with
  | none => some (.object [])
  | some found => if found.isObject then some found else none

end Json

namespace VolumeAttachment

def name (attachment : VolumeAttachment) : String := attachment.metadata.nameText

def ofJson? (value : Json) : Option VolumeAttachment := do
  if !value.isOfKind .attachment then failure
  let spec ← value.objectMember "spec"
  let source ← spec.objectMember "source"
  let status ← value.objectMember "status"
  return {
    metadata := ← value.metadata?
    attacher := ← spec.textMember "attacher"
    nodeName := ← spec.textMember "nodeName"
    volumeName := ← source.optional "persistentVolumeName" Json.text?
    attached := (← status.optional "attached" Json.boolean?).getD false }

end VolumeAttachment

namespace PersistentVolume

def name (volume : PersistentVolume) : String := volume.metadata.nameText

end PersistentVolume

namespace SecretReference

def ofJson? (value : Json) : Option SecretReference := do
  if !value.isObject then failure
  return ⟨← value.optional "name" Json.text?, ← value.optional "namespace" Json.text?⟩

end SecretReference

namespace DriverSource

def ofJson? (value : Json) : Option DriverSource := do
  if !value.isObject then failure
  return {
    driver := ← value.textMember "driver"
    handle := ← value.textMember "volumeHandle"
    fileSystem := ← value.optional "fsType" Json.text?
    readOnly := (← value.optional "readOnly" Json.boolean?).getD false
    attributes := (← value.optional "volumeAttributes" Json.textMap?).getD []
    publishSecret := ← value.optional "controllerPublishSecretRef" SecretReference.ofJson? }

end DriverSource

namespace VolumeSpec

def ofJson? (value : Json) : Option VolumeSpec := do
  if !value.isObject then failure
  return {
    accessModes := (← value.optional "accessModes" Json.texts?).getD []
    volumeMode := ← value.optional "volumeMode" Json.text?
    mountOptions := (← value.optional "mountOptions" Json.texts?).getD []
    source := ← value.optional "csi" DriverSource.ofJson? }

end VolumeSpec

namespace PersistentVolume

def ofJson? (value : Json) : Option PersistentVolume := do
  if !value.isOfKind .volume then failure
  return ⟨← value.metadata?, ← value.optional "spec" VolumeSpec.ofJson?⟩

/-- The part of a volume that some driver understands. -/
def source? (volume : PersistentVolume) : Option DriverSource :=
  volume.spec.bind VolumeSpec.source

end PersistentVolume

namespace Node

def ofJson? (value : Json) : Option Node := do
  if !value.isOfKind .node then failure
  return ⟨← value.metadata?⟩

end Node

namespace NodeRegistration

/-- What a driver calls a node, from the list of its drivers. -/
def driverOfJson? (value : Json) : Option DriverRegistration := do
  if !value.isObject then failure
  return ⟨← value.textMember "name", ← value.textMember "nodeID"⟩

def ofJson? (value : Json) : Option NodeRegistration := do
  if !value.isOfKind .csiNode then failure
  let spec ← value.objectMember "spec"
  let drivers ← match spec.member? "drivers" with
    | none => some []
    | some found => do (← found.array?).mapM driverOfJson?
  return ⟨← value.metadata?, drivers⟩

end NodeRegistration

end VolumeAttacher
