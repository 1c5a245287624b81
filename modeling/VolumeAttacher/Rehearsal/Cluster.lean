import VolumeAttacher.Cluster.Client
import VolumeAttacher.Cluster.Server
import VolumeAttacher.Reconciliation.Request

/-!
# Rehearsed clusters

What answers the requests of a rehearsed controller: either a record of calls, which keeps the
versions of some objects, or a server, which answers requests and applies none of them. Both fail
where a script says so.
-/

namespace VolumeAttacher.Rehearsal

/-- Some first calls of a name that fail. -/
structure ScriptedFailure where
  call : String
  name : Option String
  times : Nat
  fault : Fault

/-- A cluster that records calls. -/
structure CallRecord where
  failures : List ScriptedFailure
  versions : List (String × Nat)
  secrets : List (String × Json.TextMap)

/-- Some first requests to a path that are refused. -/
structure ScriptedRefusal where
  method : String
  path : String
  times : Nat
  status : Nat
  reason : String
  /-- Whether it is about watching instead of reading. -/
  isWatch : Bool

/-- A cluster that answers requests. -/
structure RequestServer where
  refusals : List ScriptedRefusal
  /-- The secrets, by path. -/
  secrets : List (String × Json)

inductive RehearsedCluster where
  | recording (record : CallRecord)
  | serving (server : RequestServer)

/-- What is seen of a request of the controller to the cluster. -/
inductive ClusterTrace where
  | call (name call : String) (detail : Json) (result : Except Fault Unit)
  /-- A request with the status that the script sets for it, or else 200. -/
  | exchange (request : ClusterRequest) (status : Nat)

/-- A write to an object. -/
structure ObjectWrite where
  call : String
  name : String
  detail : Json
  /-- The version that the written object has to have, if the write is bound to one. -/
  bound : Option (Option String)

/-- The first entry that passes a test and is not used up, and the entries after it was used. -/
def useFirst {α : Type} (test : α → Bool) (times : α → Nat) (used : α → α) :
    List α → Option α × List α
  | [] => (none, [])
  | first :: rest =>
    if test first && times first != 0 then (some first, used first :: rest)
    else
      let (found, rest) := useFirst test times used rest
      (found, first :: rest)

namespace CallRecord

/-- The failure that the script has for a call. -/
def failure (record : CallRecord) (call name : String) : Option Fault × CallRecord :=
  let (found, failures) := useFirst
    (fun failure : ScriptedFailure => failure.call = call && failure.name.all (· = name))
    ScriptedFailure.times (fun failure => { failure with times := failure.times - 1 })
    record.failures
  (found.map ScriptedFailure.fault, { record with failures })

/-- Whether a text is the decimal of a version. -/
def isVersion (text : String) (version : Nat) : Bool :=
  text ≠ "" && text.toList.all Char.isDigit && Nat.ofDigitChars 10 text.toList 0 = version

/-- Whether a write may go on, given the version of its object. -/
def isCurrent (record : CallRecord) (write : ObjectWrite) : Bool :=
  match write.bound, record.versions.lookup write.name with
  | some stated, some version => stated.any fun text => isVersion text version
  | _, _ => true

/-- The record after a write that was accepted. -/
def bump (record : CallRecord) (name : String) : CallRecord :=
  { record with
      versions := record.versions.map fun (other, version) =>
        (other, if other = name then version + 1 else version) }

/-- A write, the answer to it, and what is seen of it. -/
def write (record : CallRecord) (write : ObjectWrite) :
    CallRecord × Except Fault Unit × ClusterTrace :=
  let (failure, record) := record.failure write.call write.name
  let (record, result) : CallRecord × Except Fault Unit := match failure with
    | some fault => (record, .error fault)
    | none =>
      if record.isCurrent write then (record.bump write.name, .ok ())
      else (record, .error (.cluster (.refused 409 "Conflict"
        ("the object " ++ write.name ++ " has been modified"))))
  (record, result, .call write.name write.call write.detail result)

/-- A secret that is asked for. A missing one is no failure of the call. -/
def secret (record : CallRecord) (name : String) :
    CallRecord × Except Fault Json.TextMap × ClusterTrace :=
  let (failure, record) := record.failure "get_secret" name
  let result : Except Fault Json.TextMap := match failure, record.secrets.lookup name with
    | some fault, _ => .error fault
    | none, some contents => .ok contents
    | none, none => .error (.notFound "Secret" name)
  (record, result, .call name "get_secret" .null (match failure with
    | some fault => .error fault
    | none => .ok ()))

end CallRecord

namespace RequestServer

/-- The status of a refusal that the script has for a request. -/
def refusal (server : RequestServer) (method path : String) (isWatch : Bool) :
    Option ClusterResponse × RequestServer :=
  let (found, refusals) := useFirst
    (fun refusal : ScriptedRefusal =>
      refusal.method = method && refusal.path = path && refusal.isWatch = isWatch)
    ScriptedRefusal.times (fun refusal => { refusal with times := refusal.times - 1 })
    server.refusals
  (found.map fun refusal => ClusterServer.refusal refusal.status refusal.reason "scripted",
    { server with refusals })

/-- The answer to a request to change an object. -/
def write (server : RequestServer) (request : ClusterRequest) :
    RequestServer × Except Fault Unit × ClusterTrace :=
  let (refused, server) := server.refusal request.method.name request.path false
  match refused with
  | some response =>
    (server, ClusterClient.attachmentWritten response, .exchange request response.status)
  | none => (server, .ok (), .exchange request 200)

/-- The answer to a request to read a secret. -/
def secret (server : RequestServer) (nameSpace name : String) :
    RequestServer × Except Fault Json.TextMap × ClusterTrace :=
  let request := ClusterClient.getSecret nameSpace name
  let (refused, server) := server.refusal request.method.name request.path false
  let response := match refused, server.secrets.lookup request.path with
    | some response, _ => response
    | none, some secret => ⟨200, secret⟩
    | none, none => ClusterServer.refusal 404 "NotFound" "the secret was not found"
  (server, ClusterClient.secretFound nameSpace name response,
    .exchange request ((refused.map ClusterResponse.status).getD 200))

end RequestServer

namespace RehearsedCluster

/-- A write, as it is recorded and as it is requested. -/
def write (cluster : RehearsedCluster) (write : ObjectWrite) (request : ClusterRequest) :
    RehearsedCluster × Except Fault Unit × ClusterTrace :=
  match cluster with
  | .recording record =>
    let (record, result, trace) := record.write write
    (.recording record, result, trace)
  | .serving server =>
    let (server, result, trace) := server.write request
    (.serving server, result, trace)

def secret (cluster : RehearsedCluster) (nameSpace name : String) :
    RehearsedCluster × Except Fault Json.TextMap × ClusterTrace :=
  match cluster with
  | .recording record =>
    let (record, result, trace) := record.secret (nameSpace ++ "/" ++ name)
    (.recording record, result, trace)
  | .serving server =>
    let (server, result, trace) := server.secret nameSpace name
    (.serving server, result, trace)

end RehearsedCluster

end VolumeAttacher.Rehearsal
