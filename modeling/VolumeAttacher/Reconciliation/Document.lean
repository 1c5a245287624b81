import VolumeAttacher.Json.Member
import VolumeAttacher.Reconciliation.Feed

/-!
# Documents about the cluster's objects

The changes that a feed is told, and collections of objects, as the server writes them.
-/

namespace VolumeAttacher

/-- The objects of a document, each kind under a name of its own; what cannot be read is left
out. -/
def Caches.ofJson (value : Json) : Caches where
  attachments := (value.itemsAt "vas").filterMap VolumeAttachment.ofJson?
  volumes := (value.itemsAt "pvs").filterMap PersistentVolume.ofJson?
  nodes := (value.itemsAt "nodes").filterMap Node.ofJson?
  registrations := (value.itemsAt "csi_nodes").filterMap NodeRegistration.ofJson?

/-- The feed of a kind of objects. -/
def Feed.ofKind (kind : String) : Feed :=
  if kind = Resource.attachment.kind then .attachments
  else if kind = Resource.volume.kind then .volumes
  else if kind = Resource.node.kind then .nodes
  else .registrations

/-- The change that an event of a type tells of an object. -/
def Change.ofType? {Object : Type} (type : String) (object : Object) : Option (Change Object) :=
  if type = "ADDED" || type = "MODIFIED" then some (.applied object)
  else if type = "DELETED" then some (.deleted object)
  else none

/-- The change that an event tells, if it tells one. -/
def CacheChange.ofJson? (event : Json) : Option CacheChange :=
  let object := event.valueAt "object"
  let type := event.textAt "type"
  match Feed.ofKind (event.textAt "kind") with
  | .attachments =>
    ((VolumeAttachment.ofJson? object).bind (Change.ofType? type)).map .attachments
  | .volumes => ((PersistentVolume.ofJson? object).bind (Change.ofType? type)).map .volumes
  | .nodes => ((Node.ofJson? object).bind (Change.ofType? type)).map .nodes
  | .registrations =>
    ((NodeRegistration.ofJson? object).bind (Change.ofType? type)).map .registrations

end VolumeAttacher
