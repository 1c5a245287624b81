import VolumeAttacher.Access
import VolumeAttacher.Cluster.Object
import VolumeAttacher.Driver.Name
import VolumeAttacher.Fault
import VolumeAttacher.Json.Reader

/-!
# Volumes, attachments and nodes as a driver sees them

What a driver has to know to publish a volume, derived from the objects of the cluster.
-/

namespace VolumeAttacher

/-- The annotation of a node that maps the names of drivers to what they call the node. -/
def nodeIdKey : String := "csi.volume.kubernetes.io/nodeid"

/-- The annotation of an attachment that remembers what the driver called its node. -/
def attachmentNodeIdKey : String := "csi.alpha.kubernetes.io/node-id"

namespace VolumeAttachment

/-- The name of the volume that an attachment refers to. -/
def volume? (attachment : VolumeAttachment) : Except Fault String :=
  match attachment.volumeName with
  | some name => .ok name
  | none => .error (.invalidAttachment attachment.name .notPersistentVolume)

/-- The attachment is for a driver. -/
def isFor (attachment : VolumeAttachment) (driver : DriverName) : Bool :=
  attachment.attacher = driver.text

/-- The attachment is for a driver and refers to a volume. -/
def uses (attachment : VolumeAttachment) (driver : DriverName) (volume : String) : Bool :=
  attachment.isFor driver && attachment.volumeName = some volume

end VolumeAttachment

namespace PersistentVolume

/-- The source of a volume, which must be one of a driver's. -/
def sourceFor (volume : PersistentVolume) (driver : DriverName) : Except Fault DriverSource :=
  match volume.source? with
  | none => .error (.invalidAttachment volume.name .notDriverVolume)
  | some source =>
    if source.driver = driver.text then .ok source
    else .error (.invalidAttachment volume.name (.foreignDriver source.driver))

/-- The volume is one of a driver's. -/
def belongsTo (volume : PersistentVolume) (driver : DriverName) : Bool :=
  match volume.source? with
  | none => false
  | some source => source.driver = driver.text

/-- The access modes of a volume. -/
def accessModes (volume : PersistentVolume) : List String :=
  match volume.spec with
  | none => []
  | some spec => spec.accessModes

/-- A volume is read-only if its source says so, or if reading by many nodes is all it allows. -/
def isReadOnly (volume : PersistentVolume) (source : DriverSource) : Bool :=
  source.readOnly ||
    (!volume.accessModes.isEmpty && volume.accessModes.all (· = "ReadOnlyMany"))

/-- The mode that covers the access modes of a volume. -/
def accessMode? (modes : List String) : Option AccessMode :=
  if "ReadWriteMany" ∈ modes then some .multiNodeMultiWriter
  else if "ReadWriteOnce" ∈ modes && "ReadOnlyMany" ∈ modes then some .multiNodeSingleWriter
  else if "ReadOnlyMany" ∈ modes then some .multiNodeReaderOnly
  else if "ReadWriteOnce" ∈ modes || "ReadWriteOncePod" ∈ modes then some .singleNodeWriter
  else none

/-- How a volume is presented on a node. -/
def accessType (spec : VolumeSpec) (source : DriverSource) : AccessType :=
  if spec.volumeMode = some "Block" then .block
  else .mount (source.fileSystem.getD "") spec.mountOptions

/-- The access that a volume is published with. -/
def access (volume : PersistentVolume) (source : DriverSource) : Except Fault VolumeAccess :=
  match volume.spec with
  | none => .error (.invalidAttachment volume.name .noSpec)
  | some spec =>
    match accessMode? spec.accessModes with
    | some mode => .ok ⟨accessType spec source, mode⟩
    | none => .error (.invalidAttachment volume.name (.accessModes spec.accessModes))

end PersistentVolume

/-- A text that is there and not empty. -/
def nonempty? (text : Option String) : Option String :=
  text.filter (· ≠ "")

namespace NodeRegistration

/-- What the first registration of a driver calls the node. -/
def nodeId? (registration : NodeRegistration) (driver : DriverName) : Option String :=
  (registration.drivers.find? fun entry => entry.driver = driver.text).map
    DriverRegistration.nodeId

end NodeRegistration

namespace Node

/-- What the annotation of a node says that a driver calls it. -/
def nodeId? (node : Node) (driver : DriverName) : Option String := do
  let text ← node.metadata.annotation? nodeIdKey
  let map ← (← Json.ofText? text).textMap?
  map.lookup driver.text

end Node

namespace VolumeAttachment

/-- What an attachment remembers that the driver called its node. -/
def rememberedNodeId? (attachment : VolumeAttachment) : Option String :=
  attachment.metadata.annotation? attachmentNodeIdKey

end VolumeAttachment

/-- What a driver calls a node: as it registered there, or else as the node's annotation says, or
else as the attachment remembers. -/
def nodeId
    (nodeName : String)
    (driver : DriverName)
    (registration : Option NodeRegistration)
    (node : Option Node)
    (attachment : Option VolumeAttachment) : Except Fault String :=
  let registered := nonempty? (registration.bind (·.nodeId? driver))
  let annotated := nonempty? (node.bind (·.nodeId? driver))
  let remembered := nonempty? (attachment.bind (·.rememberedNodeId?))
  match registered.or (annotated.or remembered) with
  | some id => .ok id
  | none => .error (.nodeIdUnavailable nodeName driver.text)

end VolumeAttacher
