import VolumeAttacher.Cluster.Exchange
import VolumeAttacher.Json.MergePatch

/-!
# A server that keeps one object

How the cluster's server treats an object whose writers do not know of each other. Each write makes a
new version, and a write that carries another version than the current one is refused.
-/

namespace VolumeAttacher

/-- An object that the server keeps, and the number of its version. -/
structure StoredObject where
  body : Json
  version : Nat

namespace StoredObject

/-- The text of the version. -/
def versionText (stored : StoredObject) : String := toString stored.version

/-- The object as readers get it, its version among its metadata. -/
def shown (stored : StoredObject) : Json :=
  let metadata := ((stored.body.member? "metadata").getD .null).membersOf
  .object (Json.setMember "metadata"
    (.object (Json.setMember "resourceVersion" (.text stored.versionText) metadata))
    stored.body.membersOf)

end StoredObject

namespace ClusterServer

/-- The answer that refuses a request. -/
def refusal (code : Nat) (reason message : String) : ClusterResponse :=
  ⟨code, .object [("kind", .text "Status"), ("apiVersion", .text "v1"), ("metadata", .object []),
    ("status", .text "Failure"), ("message", .text message), ("reason", .text reason),
    ("code", .whole code)]⟩

/-- The version that a writer says the object has. -/
def statedVersion? (body : Json) : Option String :=
  ((body.member? "metadata").bind (·.member? "resourceVersion")).bind Json.text?

/-- Whether a writer may go on, given the version that it states; one that states none may. -/
def isCurrent (stored : StoredObject) (body : Json) : Bool :=
  (statedVersion? body).all fun version => version = stored.versionText

/-- A write to an object that exists. -/
def replace (stored : StoredObject) (body : Json) (next : Json) :
    Option StoredObject × ClusterResponse :=
  if isCurrent stored body then
    let written : StoredObject := ⟨next, stored.version + 1⟩
    (some written, ⟨200, written.shown⟩)
  else (some stored, refusal 409 "Conflict" "the object has been modified")

/-- What a request does to the object, and the answer to it. -/
def respond (slot : Option StoredObject) (request : ClusterRequest) :
    Option StoredObject × ClusterResponse :=
  let body := request.body.getD .null
  match request.method, slot with
  | .get, some stored => (slot, ⟨200, stored.shown⟩)
  | .post, none =>
    let written : StoredObject := ⟨body, 1⟩
    (some written, ⟨201, written.shown⟩)
  | .post, some _ => (slot, refusal 409 "AlreadyExists" "the object exists")
  | .put, some stored => replace stored body body
  | .patch, some stored => replace stored body (stored.body.mergePatch body)
  | _, none => (none, refusal 404 "NotFound" "the object was not found")

end ClusterServer

end VolumeAttacher
