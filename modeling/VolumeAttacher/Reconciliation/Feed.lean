import VolumeAttacher.Reconciliation.Routing

/-!
# Feeds of the caches

How the caches follow the cluster. Each kind of object has a feed that first lists all objects and
then tells of each change; when it has lost track it lists them again. A listing replaces what was
cached, and names of objects that are gone from it are not told to anybody.
-/

namespace VolumeAttacher

/-- The feeds, one for each kind of cached object. -/
inductive Feed where
  | attachments | volumes | nodes | registrations
  deriving DecidableEq

/-- What a feed tells of objects of one kind. -/
inductive Change (Object : Type) where
  /-- The object is there, in this form. -/
  | applied (object : Object)
  /-- The object is gone; this was its last form. -/
  | deleted (object : Object)
  /-- These are all objects. -/
  | listed (objects : List Object)

/-- What a feed tells. -/
inductive CacheChange where
  | attachments (change : Change VolumeAttachment)
  | volumes (change : Change PersistentVolume)
  | nodes (change : Change Node)
  | registrations (change : Change NodeRegistration)

namespace Change

variable {Object : Type}

/-- The objects with one more, in place of the one of its name. -/
def insert (name : Object → String) (object : Object) : List Object → List Object
  | [] => [object]
  | first :: rest =>
    if name first = name object then object :: rest else first :: insert name object rest

/-- The objects after a change. -/
def apply (name : Object → String) (objects : List Object) : Change Object → List Object
  | .applied object => insert name object objects
  | .deleted object => objects.filter fun other => name other ≠ name object
  | .listed objects => objects.foldl (fun objects object => insert name object objects) []

/-- The objects that a change is about. -/
def objects : Change Object → List Object
  | .applied object | .deleted object => [object]
  | .listed objects => objects

def isListing : Change Object → Bool
  | .listed _ => true
  | .applied _ | .deleted _ => false

end Change

namespace CacheChange

/-- The feed that tells of a change. -/
def feed : CacheChange → Feed
  | .attachments _ => .attachments
  | .volumes _ => .volumes
  | .nodes _ => .nodes
  | .registrations _ => .registrations

/-- Whether all objects are told. -/
def isListing : CacheChange → Bool
  | .attachments change => change.isListing
  | .volumes change => change.isListing
  | .nodes change => change.isListing
  | .registrations change => change.isListing

/-- The keys that a change puts into the queues. -/
def tasks (attacher : Attacher) : CacheChange → List Task
  | .attachments change => change.objects.flatMap (Routing.ofAttachment attacher)
  | .volumes change => change.objects.flatMap (Routing.ofVolume attacher)
  | .nodes _ | .registrations _ => []

end CacheChange

namespace Caches

/-- The caches after a change. -/
def apply (caches : Caches) : CacheChange → Caches
  | .attachments change =>
    { caches with attachments := change.apply VolumeAttachment.name caches.attachments }
  | .volumes change =>
    { caches with volumes := change.apply PersistentVolume.name caches.volumes }
  | .nodes change =>
    { caches with nodes := change.apply (·.metadata.nameText) caches.nodes }
  | .registrations change =>
    { caches with registrations := change.apply (·.metadata.nameText) caches.registrations }

end Caches

end VolumeAttacher
