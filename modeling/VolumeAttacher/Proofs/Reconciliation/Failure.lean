import VolumeAttacher.Controller
import VolumeAttacher.Proofs.Reconciliation.Protocol

/-!
# Failed driver calls

A reconciliation whose driver call failed asks nothing more of the driver and ends with the fault of
the call, whether or not its report reached the cluster.
-/

namespace VolumeAttacher

/-- The fault that a result is, if it is one. -/
def Fault.ofResult {α : Type} : Except Fault α → Option Fault
  | .ok _ => none
  | .error fault => some fault

namespace Request

/-- The driver is asked, and not the cluster. -/
def isDriverCall : Request → Bool
  | .publish _ _ | .unpublish _ _ => true
  | _ => false

/-- The fault with which a driver call failed. -/
def driverFault? : (request : Request) → request.Answer → Option Fault
  | .publish _ timeout, reply => Fault.ofResult (reply.result publishOperation timeout)
  | .unpublish _ timeout, reply => Fault.ofResult (reply.result unpublishOperation timeout)
  | _, _ => none

/-- Only driver calls fail as such. -/
theorem driverFault?_eq_none
    {request : Request}
    (other : request.isDriverCall ≠ true)
    (answer : request.Answer) :
    request.driverFault? answer = none := by
  cases request with
  | publish | unpublish => exact absurd rfl other
  | _ => rfl

end Request

namespace Reconciliation

/-- The driver is asked until a call fails. -/
def failing : Protocol Request Request.Answer (Option Fault) where
  permits failed request := request.isDriverCall → failed = none
  advance failed request answer := (request.driverFault? answer).or failed

/-- After a failed driver call no other one is made, and its fault remains. -/
theorem failing_of_failed
    {α : Type}
    {ends : Option Fault → α → Prop}
    {fault : Fault}
    {request : Request}
    {resume : request.Answer → Dialogue Request Request.Answer α}
    (follows : (Dialogue.ask request resume).Follows failing ends (some fault)) :
    request.isDriverCall ≠ true ∧
      ∀ answer, (resume answer).Follows failing ends (some fault) := by
  have other : request.isDriverCall ≠ true := fun calls => nomatch follows.1 calls
  refine ⟨other, ?_⟩
  intro answer
  have goesOn := follows.2 answer
  simpa [failing, Request.driverFault?_eq_none other] using goesOn

theorem advance_failing_publish
    (request : PublishRequest)
    (timeout : Duration)
    (reply : Reply Json.TextMap) :
    failing.advance none (.publish request timeout) reply =
      Fault.ofResult (reply.result publishOperation timeout) := by
  simp [failing, Request.driverFault?]

theorem advance_failing_unpublish
    (request : UnpublishRequest)
    (timeout : Duration)
    (reply : Reply Unit) :
    failing.advance none (.unpublish request timeout) reply =
      Fault.ofResult (reply.result unpublishOperation timeout) := by
  simp [failing, Request.driverFault?]

/-- The fault of a driver call is the result. -/
def Surfaces {α : Type} (failed : Option Fault) (result : Except Fault α) : Prop :=
  ∀ fault, failed = some fault → result = .error fault

theorem surfaces_none {α : Type} (result : Except Fault α) : Surfaces none result := nofun

theorem surfaces_error {α : Type} (fault : Fault) :
    Surfaces (some fault) (.error fault : Except Fault α) := by
  rintro _ ⟨⟩
  rfl

/-- No driver call failed so far. -/
def Unfailed {α : Type} (failed : Option Fault) (_ : Except Fault α) : Prop :=
  failed = none

theorem publishSecrets_failing (source : DriverSource) :
    Follows failing Unfailed none (publishSecrets source) := by
  unfold publishSecrets
  split
  · exact .ask nofun fun answer => rfl
  · rfl

theorem ensureFinalizers_failing
    (attacher : Attacher)
    (attachment : VolumeAttachment)
    (volume : PersistentVolume)
    (nodeId : String) :
    Follows failing Unfailed none (ensureFinalizers attacher attachment volume nodeId) := by
  unfold ensureFinalizers
  split
  · have adds : Follows failing Unfailed none (do
        ofExcept (← (Request.addVolumeFinalizer volume attacher.finalizer).attempt)) :=
      .ask nofun fun answer => rfl
    split
    · exact .ask nofun fun answer => .check (fun _ _ => adds) fun _ _ => rfl
    · exact adds
  · split
    · exact .ask nofun fun answer => .check (fun _ _ => rfl) fun _ _ => rfl
    · rfl

/-- What comes after a driver call: its failure is reported and surfaces. -/
theorem report_failing
    (operation : Operation)
    (name : String)
    (patch : StatusPatch)
    (fault : Fault) :
    Follows failing (Surfaces (α := Unit)) (some fault) (do
      (Request.record operation false).attempt
      let _ ← (Request.patchStatus name patch).attempt
      throw fault) :=
  .ask nofun fun _ => .ask nofun fun _ => surfaces_error fault

theorem attach_failing
    (attacher : Attacher)
    (honorsReadOnly : Bool)
    (caches : Caches)
    (attachment : VolumeAttachment) :
    Follows failing Surfaces none (attach attacher honorsReadOnly caches attachment) := by
  refine .check ?_ fun _ _ => surfaces_none _
  intro volume _
  refine .check ?_ fun _ _ => surfaces_none _
  intro source _
  refine .check ?_ fun _ _ => surfaces_none _
  intro nodeId _
  refine (ensureFinalizers_failing attacher attachment volume nodeId).bind ?_ ?_
  · rintro _ - rfl
    refine .check ?_ fun _ _ => surfaces_none _
    intro access _
    refine (publishSecrets_failing source).bind ?_ ?_
    · rintro _ secrets rfl
      refine .ask (fun _ => rfl) ?_
      intro reply
      cases outcome : Reply.result publishOperation attacher.timeout reply with
      | ok metadata =>
        rw [advance_failing_publish, outcome]
        exact .ask nofun fun _ => .ask nofun fun _ => surfaces_none _
      | error fault =>
        rw [advance_failing_publish, outcome]
        exact report_failing .attach attachment.name (.attachFailed fault.message) fault
    · rintro _ fault rfl
      exact surfaces_none _
  · rintro _ fault rfl
    exact surfaces_none _

theorem detach_failing
    (attacher : Attacher)
    (caches : Caches)
    (attachment : VolumeAttachment) :
    Follows failing Surfaces none (detach attacher caches attachment) := by
  refine .check ?_ fun _ _ => surfaces_none _
  intro volume _
  refine .check ?_ fun _ _ => surfaces_none _
  intro source _
  refine .check ?_ fun _ _ => surfaces_none _
  intro nodeId _
  refine (publishSecrets_failing source).bind ?_ ?_
  · rintro _ secrets rfl
    refine .ask (fun _ => rfl) ?_
    intro reply
    cases outcome : Reply.result unpublishOperation attacher.timeout reply with
    | ok done =>
      rw [advance_failing_unpublish, outcome]
      exact .ask nofun fun _ => .ask nofun fun _ =>
        .check (fun _ _ => .ask nofun fun _ => surfaces_none _) fun _ _ => surfaces_none _
    | error fault =>
      rw [advance_failing_unpublish, outcome]
      exact report_failing .detach attachment.name (.detachFailed fault.message) fault
  · rintro _ fault rfl
    exact surfaces_none _

theorem attachment_failing (attacher : Attacher) (caches : Caches) (name : String) :
    Follows failing Surfaces none (attachment attacher caches name) := by
  unfold attachment
  split
  · exact surfaces_none _
  · split
    · split
      · unfold markAttached
        split
        · exact surfaces_none _
        · exact .ask nofun fun _ => surfaces_none _
      · unfold driveAttachment
        dsimp only
        split
        · split
          · exact detach_failing attacher caches _
          · exact surfaces_none _
        · split
          · exact attach_failing attacher _ caches _
          · exact surfaces_none _
    · exact surfaces_none _

theorem volume_failing (attacher : Attacher) (caches : Caches) (name : String) :
    Follows failing Surfaces none (volume attacher caches name) := by
  unfold volume
  split
  · exact surfaces_none _
  · split
    · exact .ask nofun fun _ => surfaces_none _
    · exact surfaces_none _

/-- Every reconciliation asks the driver only until a call fails, and ends with its fault. -/
theorem ofTask_failing (attacher : Attacher) (caches : Caches) (task : Task) :
    Follows failing Surfaces none (ofTask attacher caches task) := by
  obtain ⟨subject, name⟩ := task
  cases subject with
  | attachment => exact attachment_failing attacher caches name
  | volume => exact volume_failing attacher caches name

end Reconciliation

end VolumeAttacher
