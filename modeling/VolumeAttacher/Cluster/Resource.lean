/-!
# Kinds of cluster objects

The kinds of objects that are read or written, and where the cluster's server keeps them.
-/

namespace VolumeAttacher

/-- A kind of object. -/
inductive Resource where
  | attachment | volume | node | csiNode | lease | configMap | secret
  deriving DecidableEq

namespace Resource

/-- The version of the interface that an object of the kind belongs to. -/
def apiVersion : Resource → String
  | .attachment | .csiNode => "storage.k8s.io/v1"
  | .lease => "coordination.k8s.io/v1"
  | .volume | .node | .configMap | .secret => "v1"

/-- The name of the kind. -/
def kind : Resource → String
  | .attachment => "VolumeAttachment"
  | .volume => "PersistentVolume"
  | .node => "Node"
  | .csiNode => "CSINode"
  | .lease => "Lease"
  | .configMap => "ConfigMap"
  | .secret => "Secret"

/-- The word for all objects of the kind in a path. -/
def plural : Resource → String
  | .attachment => "volumeattachments"
  | .volume => "persistentvolumes"
  | .node => "nodes"
  | .csiNode => "csinodes"
  | .lease => "leases"
  | .configMap => "configmaps"
  | .secret => "secrets"

/-- The path below which the interface of the kind lives. -/
def root (resource : Resource) : String :=
  if resource.apiVersion = "v1" then "/api/v1" else "/apis/" ++ resource.apiVersion

/-- The path of all objects of a kind, in one namespace if there is one. -/
def collection (resource : Resource) (nameSpace : Option String) : String :=
  resource.root ++
    (match nameSpace with
    | some name => "/namespaces/" ++ name
    | none => "") ++ "/" ++ resource.plural

/-- The path of one object. -/
def path (resource : Resource) (nameSpace : Option String) (name : String) : String :=
  resource.collection nameSpace ++ "/" ++ name

end Resource

end VolumeAttacher
