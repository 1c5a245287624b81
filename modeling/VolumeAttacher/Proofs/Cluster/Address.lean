import VolumeAttacher.Cluster.Client
import VolumeAttacher.Cluster.Server
import VolumeAttacher.Proofs.Cluster.Edition

/-!
# Addresses of objects

Where a server keeps an object, what a request reaches of it, and what a request that is accepted
makes of it. Attachments and volumes have their status at an address of its own: a write there
changes nothing else, and a write to the object leaves the status as it is.
-/

namespace VolumeAttacher

/-- Where a server keeps an object. -/
structure Address where
  /-- The path of all objects beside it. -/
  collection : String
  name : String
  /-- Its status is written at an address of its own. -/
  hasStatus : Bool

namespace Address

/-- The path of the object. -/
def path (address : Address) : String := address.collection ++ "/" ++ address.name

/-- The path of the status, if that has one. -/
def statusPath (address : Address) : String := address.path ++ "/status"

/-- Where attachments are kept. -/
def ofAttachment (name : String) : Address :=
  ⟨"/apis/storage.k8s.io/v1/volumeattachments", name, true⟩

/-- Where volumes are kept. -/
def ofVolume (name : String) : Address := ⟨"/api/v1/persistentvolumes", name, true⟩

theorem statusPath_ne_path (address : Address) : address.statusPath ≠ address.path := by
  intro same
  have longer := congrArg String.length same
  rw [statusPath, String.length_append] at longer
  exact absurd (Nat.left_eq_add.mp longer.symm) (by decide)

theorem path_attachment (name : String) :
    Resource.attachment.path none name = (ofAttachment name).path := by
  have collection : Resource.attachment.collection none =
      "/apis/storage.k8s.io/v1/volumeattachments" := by
    decide
  rw [Resource.path, collection]
  rfl

theorem statusPath_attachment_injective :
    Function.Injective fun name => (ofAttachment name).statusPath := by
  intro first second same
  simpa only [statusPath, path, ofAttachment, String.append_left_inj, String.append_right_inj]
    using same

theorem path_volume (name : String) :
    Resource.volume.path none name = (ofVolume name).path := by
  have collection : Resource.volume.collection none = "/api/v1/persistentvolumes" := by decide
  rw [Resource.path, collection]
  rfl

end Address

/-- What a request reaches of an object. -/
inductive Part where
  /-- The object, its status included. -/
  | everything
  | allButStatus
  | status
  deriving DecidableEq

namespace ClusterRequest

/-- What a request sends. -/
def content (request : ClusterRequest) : Json := request.body.getD .null

/-- The name that a request gives to what is to be created. -/
def namesObject? (request : ClusterRequest) : Option String :=
  ((request.content.member? "metadata").bind (·.member? "name")).bind Json.text?

/-- What a request reaches of the object at an address, if it is sent there. -/
def part? (request : ClusterRequest) (address : Address) : Option Part :=
  let reached := if address.hasStatus then Part.allButStatus else Part.everything
  match request.method with
  | .post =>
    if request.path = address.collection ∧ request.namesObject? = some address.name then
      some reached
    else none
  | .get | .put | .patch =>
    if request.path = address.path then some reached
    else if address.hasStatus ∧ request.path = address.statusPath then some .status
    else none

/-- What a write says that the object is to be. -/
def stated (request : ClusterRequest) (old : Json) : Json :=
  match request.method with
  | .patch => old.mergePatch request.content
  | .get | .post | .put => request.content

/-- What a write makes of the object that is there. -/
def outcome (request : ClusterRequest) (part : Part) (old : Json) : Json :=
  match part with
  | .everything => request.stated old
  | .allButStatus => (request.stated old).withStatusOf old
  | .status => old.withStatusOf (request.stated old)

/-- The request states no other version than one. -/
def IsMadeFrom (request : ClusterRequest) (version : String) : Prop :=
  ∀ stated ∈ ClusterServer.statedVersion? request.content, stated = version

/-- A request may be accepted at an address, and makes one edition of the object from another. -/
structure Makes (request : ClusterRequest) (address : Address) (old new : Edition) : Prop where
  writes : request.method = .put ∨ request.method = .patch
  current : request.IsMadeFrom old.version
  body : ∃ part, request.part? address = some part ∧ new.body = request.outcome part old.body

variable {request : ClusterRequest} {address : Address}

theorem part?_of_path (posts : request.method ≠ .post) (same : request.path = address.path) :
    request.part? address =
      some (if address.hasStatus then Part.allButStatus else Part.everything) := by
  unfold part?
  cases method : request.method with
  | post => exact absurd method posts
  | get | put | patch => exact if_pos same

theorem part?_of_statusPath
    (posts : request.method ≠ .post)
    (hasStatus : address.hasStatus = true)
    (same : request.path = address.statusPath) :
    request.part? address = some .status := by
  have other : request.path ≠ address.path := same ▸ address.statusPath_ne_path
  unfold part?
  cases method : request.method with
  | post => exact absurd method posts
  | get | put | patch => exact (if_neg other).trans (if_pos ⟨hasStatus, same⟩)

theorem path_of_part?_status (reaches : request.part? address = some .status) :
    request.path = address.statusPath := by
  have other : (if address.hasStatus then Part.allButStatus else Part.everything) ≠ .status := by
    split_ifs <;> decide
  by_cases posts : request.method = .post
  · unfold part? at reaches
    rw [posts] at reaches
    exact absurd (Option.some.inj (Option.ite_none_right_eq_some.mp reaches).2) other
  · by_cases same : request.path = address.path
    · exact absurd (Option.some.inj ((part?_of_path posts same).symm.trans reaches)) other
    · unfold part? at reaches
      cases method : request.method with
      | post => exact absurd method posts
      | get | put | patch =>
        simp only [method, if_neg same] at reaches
        exact (Option.ite_none_right_eq_some.mp reaches).1.2

theorem part?_of_collection
    (posts : request.method = .post)
    (same : request.path = address.collection)
    (named : request.namesObject? = some address.name) :
    request.part? address =
      some (if address.hasStatus then Part.allButStatus else Part.everything) := by
  unfold part?
  rw [posts]
  exact if_pos ⟨same, named⟩

/-- A status is sent to the status of its attachment, and to no other one. -/
theorem part?_patchStatus_iff {name target : String} {status : Json} :
    (ClusterClient.patchStatus target status).part? (.ofAttachment name) = some .status ↔
      target = name := by
  have path : (ClusterClient.patchStatus target status).path =
      (Address.ofAttachment target).statusPath :=
    congrArg (· ++ "/status") (Address.path_attachment target)
  constructor
  · intro reaches
    exact Address.statusPath_attachment_injective (path.symm.trans (path_of_part?_status reaches))
  · rintro rfl
    exact part?_of_statusPath nofun rfl path

end ClusterRequest

end VolumeAttacher
