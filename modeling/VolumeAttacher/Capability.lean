import VolumeAttacher.Json

/-!
# Capabilities

What a driver declares about itself: the services it has, and the operations its controller service
supports. A declaration is a set; it is kept in the order of the numbers that stand for its members
on the wire, without repetitions.
-/

namespace VolumeAttacher

/-- A service of a driver. -/
inductive ServiceCapability where
  | controllerService | volumeAccessibilityConstraints | groupControllerService
  deriving DecidableEq

/-- An operation of the controller service of a driver. -/
inductive ControllerCapability where
  | createDeleteVolume | publishUnpublishVolume | listVolumes | getCapacity
  | createDeleteSnapshot | listSnapshots | cloneVolume | publishReadonly | expandVolume
  | listVolumesPublishedNodes | volumeCondition | getVolume | singleNodeMultiWriter
  deriving DecidableEq

namespace ServiceCapability

/-- The services in the order of their numbers, from one. -/
def all : List ServiceCapability :=
  [.controllerService, .volumeAccessibilityConstraints, .groupControllerService]

def name : ServiceCapability → String
  | .controllerService => "CONTROLLER_SERVICE"
  | .volumeAccessibilityConstraints => "VOLUME_ACCESSIBILITY_CONSTRAINTS"
  | .groupControllerService => "GROUP_CONTROLLER_SERVICE"

def ofName? (text : String) : Option ServiceCapability :=
  all.find? fun capability => capability.name = text

/-- The service of a number. Zero and numbers of later revisions stand for none. -/
def ofNumber? (number : Int) : Option ServiceCapability :=
  if 1 ≤ number then all[number.toNat - 1]? else none

end ServiceCapability

namespace ControllerCapability

/-- The operations in the order of their numbers, from one. -/
def all : List ControllerCapability :=
  [.createDeleteVolume, .publishUnpublishVolume, .listVolumes, .getCapacity,
    .createDeleteSnapshot, .listSnapshots, .cloneVolume, .publishReadonly, .expandVolume,
    .listVolumesPublishedNodes, .volumeCondition, .getVolume, .singleNodeMultiWriter]

def name : ControllerCapability → String
  | .createDeleteVolume => "CREATE_DELETE_VOLUME"
  | .publishUnpublishVolume => "PUBLISH_UNPUBLISH_VOLUME"
  | .listVolumes => "LIST_VOLUMES"
  | .getCapacity => "GET_CAPACITY"
  | .createDeleteSnapshot => "CREATE_DELETE_SNAPSHOT"
  | .listSnapshots => "LIST_SNAPSHOTS"
  | .cloneVolume => "CLONE_VOLUME"
  | .publishReadonly => "PUBLISH_READONLY"
  | .expandVolume => "EXPAND_VOLUME"
  | .listVolumesPublishedNodes => "LIST_VOLUMES_PUBLISHED_NODES"
  | .volumeCondition => "VOLUME_CONDITION"
  | .getVolume => "GET_VOLUME"
  | .singleNodeMultiWriter => "SINGLE_NODE_MULTI_WRITER"

def ofName? (text : String) : Option ControllerCapability :=
  all.find? fun capability => capability.name = text

/-- The operation of a number. Zero and numbers of later revisions stand for none. -/
def ofNumber? (number : Int) : Option ControllerCapability :=
  if 1 ≤ number then all[number.toNat - 1]? else none

end ControllerCapability

/-- What a driver declared, each part as a set. -/
structure Capabilities where
  services : List ServiceCapability
  operations : List ControllerCapability
  deriving DecidableEq

namespace Capabilities

/-- The set of the services in a list. -/
def serviceSet (services : List ServiceCapability) : List ServiceCapability :=
  ServiceCapability.all.filter (· ∈ services)

/-- The set of the operations in a list. -/
def operationSet (operations : List ControllerCapability) : List ControllerCapability :=
  ControllerCapability.all.filter (· ∈ operations)

/-- The declaration of two lists, in any order and with any repetitions. -/
def ofLists
    (services : List ServiceCapability)
    (operations : List ControllerCapability) : Capabilities :=
  ⟨serviceSet services, operationSet operations⟩

def empty : Capabilities := ⟨[], []⟩

/-- The driver has a controller service at all. -/
def hasControllerService (capabilities : Capabilities) : Bool :=
  .controllerService ∈ capabilities.services

/-- The driver can publish and unpublish volumes. -/
def canPublish (capabilities : Capabilities) : Bool :=
  .publishUnpublishVolume ∈ capabilities.operations

/-- The driver honors a request to publish a volume for reading only. -/
def honorsReadOnly (capabilities : Capabilities) : Bool :=
  .publishReadonly ∈ capabilities.operations

/-- The names of the services and of the operations. -/
def toJson (capabilities : Capabilities) : Json :=
  .object [
    ("plugin", .ofTexts (capabilities.services.map ServiceCapability.name)),
    ("controller", .ofTexts (capabilities.operations.map ControllerCapability.name))]

/-- The services and operations of two lists of names. -/
def ofNames? (services operations : Json) : Option Capabilities := do
  return ofLists
    (← (← services.array?).mapM fun name => name.choice?.bind ServiceCapability.ofName?)
    (← (← operations.array?).mapM fun name => name.choice?.bind ControllerCapability.ofName?)

/-- A declaration as an object of two lists of names, or as an array of the two. -/
def ofJson? : Json → Option Capabilities
  | .object members => do
    ofNames? (← Json.lookup "plugin" members) (← Json.lookup "controller" members)
  | .array [services, operations] => ofNames? services operations
  | _ => none

end Capabilities

end VolumeAttacher
