import VolumeAttacher.Driver.Message

/-!
# The services of a driver

Which service answers each call, what is sent to it, and what its answer means.
-/

namespace VolumeAttacher

/-- A call of a driver. -/
inductive DriverCall where
  | probe
  | identity
  | services
  | operations
  | publish (request : PublishRequest)
  | unpublish (request : UnpublishRequest)

/-- An answer of a driver: a message, or a status that is not a success. -/
inductive DriverResponse where
  | message (octets : List UInt8)
  | status (code : StatusCode) (message : String)

namespace DriverCall

/-- The type of the results of a call. -/
abbrev Result : DriverCall → Type
  | .probe => Bool
  | .identity => String
  | .services => List ServiceCapability
  | .operations => List ControllerCapability
  | .publish _ => Json.TextMap
  | .unpublish _ => Unit

/-- The service that a call goes to. -/
def service : DriverCall → String
  | .probe | .identity | .services => "csi.v1.Identity"
  | .operations | .publish _ | .unpublish _ => "csi.v1.Controller"

/-- The name of a call. -/
def operation : DriverCall → String
  | .probe => "Probe"
  | .identity => "GetPluginInfo"
  | .services => "GetPluginCapabilities"
  | .operations => "ControllerGetCapabilities"
  | .publish _ => publishOperation
  | .unpublish _ => unpublishOperation

def path (call : DriverCall) : String :=
  "/" ++ call.service ++ "/" ++ call.operation

/-- The message that is sent. -/
def message : DriverCall → List UInt8
  | .probe | .identity | .services | .operations => []
  | .publish request => request.toWire
  | .unpublish request => request.toWire

/-- The result that a message holds. -/
def read? : (call : DriverCall) → List UInt8 → Option call.Result
  | .probe => DriverReply.ready?
  | .identity => DriverReply.name?
  | .services => DriverReply.services?
  | .operations => DriverReply.operations?
  | .publish _ => DriverReply.publishContext?
  | .unpublish _ => DriverReply.nothing?

/-- What an answer means. A message that cannot be read counts as an internal fault of the call. -/
def result (call : DriverCall) : DriverResponse → Except Fault call.Result
  | .status code message => .error (.driverStatus call.operation code message)
  | .message octets =>
    match call.read? octets with
    | some result => .ok result
    | none =>
      .error (.driverStatus call.operation .internal "failed to decode Protobuf message")

end DriverCall

end VolumeAttacher
