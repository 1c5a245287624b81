import VolumeAttacher.Access
import VolumeAttacher.Capability
import VolumeAttacher.Fault
import VolumeAttacher.Strategy

/-!
# Driver calls

What a driver is asked to do, and how its strategy decides whether it is asked at all.
-/

namespace VolumeAttacher

/-- A request to make a volume available on a node. -/
structure PublishRequest where
  volumeId : String
  nodeId : String
  access : VolumeAccess
  readOnly : Bool
  secrets : Json.TextMap
  context : Json.TextMap
  deriving DecidableEq

/-- A request to withdraw a volume from a node. -/
structure UnpublishRequest where
  volumeId : String
  nodeId : String
  secrets : Json.TextMap
  deriving DecidableEq

/-- How a call that was given a limited time ended. -/
inductive Reply (α : Type) where
  | answered (result : Except Fault α)
  | timedOut

namespace Reply

/-- The result of a call, running out of time being a fault. -/
def result {α : Type} (operation : String) (timeout : Duration) : Reply α → Except Fault α
  | .answered result => result
  | .timedOut => .error (.driverTimeout operation timeout)

end Reply

/-- The name of the call that publishes a volume. -/
def publishOperation : String := "ControllerPublishVolume"

/-- The name of the call that withdraws a volume. -/
def unpublishOperation : String := "ControllerUnpublishVolume"

namespace PublishRequest

/-- A request as a driver may see it: one that does not honor the read-only flag never sees it
set. -/
def masked (request : PublishRequest) (honorsReadOnly : Bool) : PublishRequest :=
  { request with readOnly := request.readOnly && honorsReadOnly }

end PublishRequest

end VolumeAttacher
