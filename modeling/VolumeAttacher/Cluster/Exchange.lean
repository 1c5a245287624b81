import VolumeAttacher.Cluster.Resource
import VolumeAttacher.Fault
import VolumeAttacher.Json.Printer

/-!
# Requests to the cluster's server

What is sent to the server, and what its answers mean. An answer with a status of 400 or more is a
refusal, which describes itself; any other must be an object of the kind that was asked for.
-/

namespace VolumeAttacher

/-- What is to be done with an object. -/
inductive Method where
  | get | post | put | patch
  deriving DecidableEq

def Method.name : Method → String
  | .get => "GET"
  | .post => "POST"
  | .put => "PUT"
  | .patch => "PATCH"

/-- The type of the body of a request; a patch is a merge patch. -/
def Method.contentType : Method → Option String
  | .get => none
  | .post | .put => some "application/json"
  | .patch => some "application/merge-patch+json"

/-- A request to the server. -/
structure ClusterRequest where
  method : Method
  path : String
  body : Option Json

/-- An answer of the server. -/
structure ClusterResponse where
  status : Nat
  body : Json

namespace ClusterResponse

/-- The description of a refusal, if a value is one. -/
def refusalOfJson? (value : Json) : Option ClusterProblem := do
  let members ← value.object?
  let _ ← (← Json.lookup "status" members).text?
  let code ← (← Json.lookup "code" members).whole?
  if code < 0 || 65535 < code then failure
  let member (name : String) : Option String :=
    match Json.lookup name members with
    | none => some ""
    | some found => found.text?
  return .refused code.toNat (← member "reason") (← member "message")

/-- The refusal that an answer is, if its status says so. -/
def problem? (response : ClusterResponse) : Option ClusterProblem :=
  if response.status < 400 then none
  else match refusalOfJson? response.body with
    | some problem => some problem
    | none =>
      some (.refused response.status "Failed to parse error data"
        (Text.quoted response.body.render))

/-- The object that an answer holds. -/
def object {α : Type} (response : ClusterResponse) (read : Json → Option α) :
    Except ClusterProblem α :=
  match response.problem? with
  | some problem => .error problem
  | none =>
    match read response.body with
    | some value => .ok value
    | none => .error .unreadable

/-- The object that an answer holds, none if the server has no such object. -/
def object? {α : Type} (response : ClusterResponse) (read : Json → Option α) :
    Except ClusterProblem (Option α) :=
  match response.object read with
  | .ok value => .ok (some value)
  | .error (.refused code reason message) =>
    if reason = "NotFound" then .ok none else .error (.refused code reason message)
  | .error problem => .error problem

end ClusterResponse

end VolumeAttacher
