import VolumeAttacher.Cluster.Server
import VolumeAttacher.Election.LockObject

/-!
# Locks of a rehearsal

The lock that the candidates of a rehearsed election share. It is kept in memory or in an object of a
server, and what is stored may be anything, also what no candidate can read.
-/

namespace VolumeAttacher.Rehearsal

/-- Where the record is kept, in the form in which it is stored. -/
inductive LockStore where
  | memory (slot : Option (Json × Nat))
  | server (kind : LockKind) (slot : Option StoredObject)

/-- How a call is made to fail. -/
inductive CallFault where
  | fault (fault : Fault)
  | status (code : Nat)

/-- How the time in a written record relates to the one in the stored record. -/
inductive Freshness where
  | absent
  | kept
  | new

/-- What is written. -/
structure Writing where
  record : Record
  acquired : Freshness
  renewed : Freshness

/-- How a write in memory went. -/
inductive WriteOutcome where
  | done | conflict | missing

/-- The holder in a stored record, in its stored form, and the version. -/
abbrev Holding := Option (Json × Nat)

/-- What is seen of a call. -/
inductive CallTrace where
  | read (found : Holding)
  | wrote (call : String) (writing : Writing) (outcome : WriteOutcome)
  | failed (call : String)
  | fetched (status : Nat) (path : String) (found : Holding)
  | sent (method : Method) (status : Nat) (writing : Writing)

/-- What a call is called. -/
def callName : LockCall → String
  | .get => "get"
  | .create _ => "create"
  | .update _ _ => "update"

namespace LockStore

/-- The stored record and its version. -/
def raw? : LockStore → Option (Json × Nat)
  | .memory slot => slot
  | .server .leases slot => slot.map fun stored =>
    ((stored.body.member? "spec").getD .null, stored.version)
  | .server .configMaps slot => slot.map fun stored =>
    let text := (stored.body.member? "metadata").bind fun metadata =>
      (metadata.member? "annotations").bind fun annotations =>
        (annotations.member? leaderKey).bind Json.text?
    ((text.bind Json.ofText?).getD .null, stored.version)

/-- The form in which a record is stored. -/
def form : LockStore → Record → Json
  | .server .leases _, record => record.toLeaseSpec
  | _, record => record.toJson

/-- Who holds the lock. -/
def holding (store : LockStore) : Holding :=
  store.raw?.map fun (record, version) =>
    ((record.member? "holderIdentity").getD .null, version)

/-- How a time in a new form relates to the one in the stored form. -/
def freshness (stored new : Json) (name : String) : Freshness :=
  match (new.member? name).bind Json.text? with
  | none => .absent
  | some time =>
    if (stored.member? name).bind Json.text? = some time then .kept else .new

/-- What a record that is written changes. -/
def writing (store : LockStore) (record : Record) : Writing :=
  let stored := (store.raw?.map Prod.fst).getD .null
  let new := store.form record
  ⟨record, freshness stored new "acquireTime", freshness stored new "renewTime"⟩

/-- The name under which calls to the store are counted. -/
def operation (store : LockStore) (lock : LockObject) (call : LockCall) : String :=
  match store with
  | .memory _ => callName call
  | .server _ _ => (lock.request call).method.name

/-- A write in memory that found the given outcome. -/
def wrote (store : LockStore) (call : LockCall) (record : Record) (fault : Fault)
    (outcome : WriteOutcome) : LockStore × LockReply × CallTrace :=
  let trace := CallTrace.wrote (callName call) (store.writing record) outcome
  match outcome with
  | .done =>
    let version := (store.raw?.map Prod.snd).getD 0
    (.memory (some (record.toJson, version + 1)), .written (.ok ()), trace)
  | .conflict | .missing => (store, .written (.error fault), trace)

/-- A call on a lock in memory. -/
def performInMemory (lock : LockObject) (slot : Option (Json × Nat)) (call : LockCall) :
    LockStore × LockReply × CallTrace :=
  let store := LockStore.memory slot
  match call, slot with
  | .get, none => (store, .got (.ok none), .read none)
  | .get, some (record, version) =>
    let reply := match Record.ofJson? record with
      | some record => .ok (some ⟨record, toString version⟩)
      | none => .error (.lockMalformed lock.name "unreadable record")
    (store, .got reply, .read store.holding)
  | .create record, none => store.wrote call record (.lockConflict lock.name) .done
  | .create record, some _ => store.wrote call record (.lockConflict lock.name) .conflict
  | .update record _, none => store.wrote call record (.notFound "Lease" lock.name) .missing
  | .update record version, some (_, current) =>
    store.wrote call record (.lockConflict lock.name)
      (if toString current = version then .done else .conflict)

/-- The reason that a server gives with a status. -/
def reasonOf (status : Nat) : String :=
  if status = 404 then "NotFound" else if status = 409 then "Conflict" else "InternalError"

/-- A call on a lock kept by a server. -/
def performAtServer (lock : LockObject) (kind : LockKind) (slot : Option StoredObject)
    (failure : Option Nat) (call : LockCall) : LockStore × LockReply × CallTrace :=
  let store := LockStore.server kind slot
  let request := lock.request call
  let (slot, response) := match failure with
    | some status => (slot, ClusterServer.refusal status (reasonOf status) "scripted")
    | none => ClusterServer.respond slot request
  let trace := match call with
    | .get => CallTrace.fetched response.status request.path store.holding
    | .create record | .update record _ =>
      .sent request.method response.status (store.writing record)
  (.server kind slot, lock.reply call response, trace)

/-- A call, and what is seen of it. -/
def perform (store : LockStore) (lock : LockObject) (failure : Option CallFault)
    (call : LockCall) : LockStore × LockReply × CallTrace :=
  match store, failure with
  | .memory slot, some (.fault fault) =>
    (.memory slot,
      match call with
        | .get => .got (.error fault)
        | .create _ | .update _ _ => .written (.error fault),
      .failed (callName call))
  | .memory slot, _ => performInMemory lock slot call
  | .server kind slot, some (.status status) =>
    performAtServer lock kind slot (some status) call
  | .server kind slot, _ => performAtServer lock kind slot none call

/-- A record in the specification of a lease, its times as they are. -/
def leaseForm (record : Json) : Json :=
  let member (name stored : String) : List (String × Json) :=
    (record.member? name).toList.map fun value => (stored, value)
  .object (member "holderIdentity" "holderIdentity" ++
    member "leaseDurationSeconds" "leaseDurationSeconds" ++ member "acquireTime" "acquireTime" ++
    member "renewTime" "renewTime" ++ member "leaderTransitions" "leaseTransitions")

/-- The object that holds a record. -/
def objectOf (kind : LockKind) (record : Json) : Json :=
  match kind with
  | .leases => .object [("metadata", .object []), ("spec", leaseForm record)]
  | .configMaps => .object [("metadata", .object
      [("annotations", .object [(leaderKey, .text record.render)])])]

/-- Somebody else writes a record. -/
def force (store : LockStore) (record : Json) : LockStore :=
  let version := (store.raw?.map Prod.snd).getD 0 + 1
  match store with
  | .memory _ => .memory (some (record, version))
  | .server kind _ => .server kind (some ⟨objectOf kind record, version⟩)

/-- The object gets a new version. -/
def touch : LockStore → LockStore
  | .memory slot => .memory (slot.map fun (record, version) => (record, version + 1))
  | .server kind slot =>
    .server kind (slot.map fun stored => { stored with version := stored.version + 1 })

/-- The object is deleted. -/
def delete : LockStore → LockStore
  | .memory _ => .memory none
  | .server kind _ => .server kind none

end LockStore

end VolumeAttacher.Rehearsal
