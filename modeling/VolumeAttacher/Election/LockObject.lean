import VolumeAttacher.Cluster.Exchange
import VolumeAttacher.Cluster.Object
import VolumeAttacher.Election.Lock
import VolumeAttacher.Election.LockKind

/-!
# Locks kept in objects of the cluster

How the calls on a lock become requests to the cluster's server, and the answers of the server
become answers of the lock. A lease holds the record in its specification; a configuration map holds
it as text in an annotation, and its other contents are left alone. Every update carries the version
that was read, so the server refuses it if the object changed meanwhile.
-/

namespace VolumeAttacher

/-- The annotation of a configuration map that holds a record. -/
def leaderKey : String := "control-plane.alpha.kubernetes.io/leader"

/-- The object that a lock is kept in. -/
structure LockObject where
  kind : LockKind
  nameSpace : String
  name : String
  deriving DecidableEq

namespace LockObject

/-- The kind of the object. -/
def resource (lock : LockObject) : Resource :=
  match lock.kind with
  | .configMaps => .configMap
  | .leases => .lease

/-- What messages call the lock. -/
def describe (lock : LockObject) : String :=
  lock.kind.name ++ "/" ++ lock.nameSpace ++ "/" ++ lock.name

def path (lock : LockObject) : String :=
  lock.resource.path (some lock.nameSpace) lock.name

/-- The annotations that hold a record. -/
def annotations (record : Record) : Json :=
  .object [(leaderKey, .text record.toJson.render)]

/-- The members that say what an object is. -/
def header (lock : LockObject) (metadata : List (String × Json)) : List (String × Json) :=
  [("apiVersion", .text lock.resource.apiVersion), ("kind", .text lock.resource.kind),
   ("metadata", .object
      ([("name", .text lock.name), ("namespace", .text lock.nameSpace)] ++ metadata))]

/-- The object that is created to hold a record. -/
def created (lock : LockObject) (record : Record) : Json :=
  match lock.kind with
  | .leases => .object (lock.header [] ++ [("spec", record.toLeaseSpec)])
  | .configMaps => .object (lock.header [("annotations", annotations record)])

/-- What is sent to replace the record of a version: a lease is sent whole, a configuration map
gets a patch. -/
def updated (lock : LockObject) (record : Record) (version : String) : Json :=
  match lock.kind with
  | .leases =>
    .object (lock.header [("resourceVersion", .text version)] ++ [("spec", record.toLeaseSpec)])
  | .configMaps =>
    .object [("metadata", .object
      [("resourceVersion", .text version), ("annotations", annotations record)])]

/-- The request that a call becomes. -/
def request (lock : LockObject) : LockCall → ClusterRequest
  | .get => ⟨.get, lock.path, none⟩
  | .create record =>
    ⟨.post, lock.resource.collection (some lock.nameSpace), some (lock.created record)⟩
  | .update record version =>
    match lock.kind with
    | .leases => ⟨.put, lock.path, some (lock.updated record version)⟩
    | .configMaps => ⟨.patch, lock.path, some (lock.updated record version)⟩

/-- A lease: its metadata and the record that it holds. -/
def leaseOfJson? (value : Json) : Option (Metadata × Record) := do
  if !value.isOfKind .lease then failure
  let record ← value.optional "spec" Record.ofLeaseSpec?
  return (← value.metadata?, record.getD .empty)

/-- The metadata of a configuration map. -/
def configMapOfJson? (value : Json) : Option Metadata := do
  if !value.isOfKind .configMap then failure
  value.metadata?

/-- The record that a configuration map holds; one without the annotation holds an empty one. -/
def annotated (lock : LockObject) (metadata : Metadata) : Except Fault Record :=
  match metadata.annotation? leaderKey with
  | none => .ok .empty
  | some text =>
    match Record.ofText? text with
    | some record => .ok record
    | none => .error (.lockMalformed lock.describe "unreadable record")

/-- What the server's answer to a reading says about the lock. -/
def found (lock : LockObject) (response : ClusterResponse) : Except Fault (Option Versioned) :=
  match lock.kind with
  | .leases =>
    match response.object? leaseOfJson? with
    | .error problem => .error (.cluster problem)
    | .ok none => .ok none
    | .ok (some (metadata, record)) =>
      .ok (some ⟨record, metadata.resourceVersion.getD ""⟩)
  | .configMaps =>
    match response.object? configMapOfJson? with
    | .error problem => .error (.cluster problem)
    | .ok none => .ok none
    | .ok (some metadata) =>
      (lock.annotated metadata).map fun record =>
        some ⟨record, metadata.resourceVersion.getD ""⟩

/-- What the server's answer to a writing means; it refuses what would overwrite an unseen change
with the code 409. -/
def written (lock : LockObject) (response : ClusterResponse) : Except Fault Unit :=
  let result : Except ClusterProblem Unit := match lock.kind with
    | .leases => (response.object leaseOfJson?).map fun _ => ()
    | .configMaps => (response.object configMapOfJson?).map fun _ => ()
  match result with
  | .ok () => .ok ()
  | .error (.refused code reason message) =>
    if code = 409 then .error (.lockConflict lock.describe)
    else .error (.cluster (.refused code reason message))
  | .error problem => .error (.cluster problem)

/-- What the server's answer to a call means. -/
def reply (lock : LockObject) (call : LockCall) (response : ClusterResponse) : LockReply :=
  match call with
  | .get => .got (lock.found response)
  | .create _ | .update _ _ => .written (lock.written response)

end LockObject

end VolumeAttacher
