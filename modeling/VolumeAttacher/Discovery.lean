import VolumeAttacher.Driver.Call
import VolumeAttacher.Driver.Name
import VolumeAttacher.Strategy

/-!
# Discovering a driver

What has to be known about a driver before work can begin: it is probed until it is ready, then
asked for its name and for its two lists of capabilities, in this order. A driver that is not ready
is probed again after a pause; any other fault ends the discovery.
-/

namespace VolumeAttacher

/-- What a driver said about itself. -/
structure Discovery where
  driver : DriverName
  capabilities : Capabilities

/-- The strategy that the capabilities decide. -/
def Discovery.strategy (discovery : Discovery) : Strategy := .select discovery.capabilities

/-- A question to a driver. -/
inductive DriverQuery where
  | probe | name | services | operations
  deriving DecidableEq

namespace Discovery

/-- The time that a question other than a probe may take. -/
def queryTimeout : Duration := .ofSeconds 1

/-- The pause after a probe of a driver that is not ready. -/
def probePause : Duration := .ofSeconds 1

/-- What a probe tells. -/
inductive Readiness where
  | ready
  /-- The driver may be ready later. -/
  | notYet
  | failed (fault : Fault)
  deriving DecidableEq

/-- What the reply to a probe tells. -/
def readiness : Reply Bool → Readiness
  | .answered (.ok true) => .ready
  | .answered (.ok false) => .notYet
  | .answered (.error (.driverStatus operation code message)) =>
    if code.isNotReady then .notYet else .failed (.driverStatus operation code message)
  | .answered (.error fault) => .failed fault
  | .timedOut => .notYet

/-- The name by which messages call a question. -/
def queryName : DriverQuery → String
  | .probe => "Probe"
  | .name => "GetPluginInfo"
  | .services => "GetPluginCapabilities"
  | .operations => "ControllerGetCapabilities"

/-- The result of a question, or in words why there is none. -/
def resultOf {α : Type} (query : DriverQuery) (timeout : Duration) : Reply α → Except String α
  | .answered (.ok result) => .ok result
  | .answered (.error fault) => .error fault.message
  | .timedOut => .error (queryName query ++ " timed out after " ++ timeout.render)

/-- The name of a driver from its reply. -/
def name (timeout : Duration) (reply : Reply String) : Except Fault DriverName :=
  match resultOf .name timeout reply with
  | .error reason => .error (.identityUnavailable reason)
  | .ok text =>
    match DriverName.ofText? text with
    | some name => .ok name
    | none => .error (.identityUnavailable "driver name is empty")

/-- The capabilities that a reply declares. -/
def declared {α : Type} (query : DriverQuery) (timeout : Duration) (reply : Reply α) :
    Except Fault α :=
  match resultOf query timeout reply with
  | .error reason => .error (.capabilityQuery (queryName query) reason)
  | .ok capabilities => .ok capabilities

end Discovery

end VolumeAttacher
