import VolumeAttacher.Duration
import VolumeAttacher.Driver.StatusCode
import VolumeAttacher.Text.Quoted

/-!
# Faults

Everything that can go wrong, by cause, with the text that reports it and what the controller does
about it.
-/

namespace VolumeAttacher

/-- Settings that nothing can start with. -/
inductive SettingsProblem where
  | kubeconfigMissing (path : String)
  | timeoutZero
  | resyncZero
  | retryStartZero
  | retryOrder (start maximum : Duration)
  | addressBlank
  | addressEmpty
  | addressScheme (scheme address : String)
  | retryPeriodZero
  | leaseTooShort (lease renew : Duration)
  | renewTooShort (renew retry : Duration)
  | leaseOutOfRange (lease : Duration)
  | lockKind (text : String)
  | lockName (name : String)
  | lockNamespace (name : String)
  | endpoint (text : String)
  | kubeconfigUnreadable (path detail : String)
  | kubeconfigInvalid (detail : String)
  | notInCluster (detail : String)
  | stated (text : String)
  deriving DecidableEq

def SettingsProblem.message : SettingsProblem → String
  | .kubeconfigMissing path => "kubeconfig " ++ path ++ " does not exist"
  | .timeoutZero => "--timeout must be positive"
  | .resyncZero => "--resync must be positive"
  | .retryStartZero => "--retry-interval-start must be positive"
  | .retryOrder start maximum =>
    "--retry-interval-start (" ++ start.render ++ ") must not exceed --retry-interval-max (" ++
      maximum.render ++ ")"
  | .addressBlank => "--csi-address must not be empty"
  | .addressEmpty => "empty CSI address"
  | .addressScheme scheme address =>
    "unsupported CSI address scheme " ++ Text.quoted scheme ++ " in " ++ address ++
      ", only unix sockets are supported"
  | .retryPeriodZero => "leader election retry period must be positive"
  | .leaseTooShort lease renew =>
    "leader election lease duration (" ++ lease.render ++
      ") must be greater than renew deadline (" ++ renew.render ++ ")"
  | .renewTooShort renew retry =>
    "leader election renew deadline (" ++ renew.render ++
      ") must be greater than 1.2 * retry period (" ++ retry.render ++ ")"
  | .leaseOutOfRange lease =>
    "leader election lease duration " ++ lease.render ++ " is out of range"
  | .lockKind text =>
    "--leader-election-type must be either 'configmaps' or 'leases', got " ++ Text.quoted text
  | .lockName name => "invalid leader election lock name " ++ Text.quoted name
  | .lockNamespace name => "invalid leader election namespace " ++ Text.quoted name
  | .endpoint text =>
    "Invalid --http-endpoint " ++ Text.quoted text ++ ": invalid socket address syntax"
  | .kubeconfigUnreadable path detail => "failed to read kubeconfig " ++ path ++ ": " ++ detail
  | .kubeconfigInvalid detail => "invalid kubeconfig: " ++ detail
  | .notInCluster detail => "failed to load in-cluster config: " ++ detail
  | .stated text => text

/-- A request to the cluster that did not succeed. -/
inductive ClusterProblem where
  /-- The server refused it. -/
  | refused (code : Nat) (reason message : String)
  /-- No server answered. -/
  | unreachable (detail : String)
  /-- The answer is not an object of the kind asked for. -/
  | unreadable
  deriving DecidableEq

def ClusterProblem.message : ClusterProblem → String
  | .refused code reason message =>
    "ApiError: " ++ message ++ ": " ++ reason ++ " (ErrorResponse \x7b status: \"Failure\", " ++
      "message: " ++ Text.quoted message ++ ", reason: " ++ Text.quoted reason ++ ", code: " ++
      toString code ++ " \x7d)"
  | .unreachable detail => "HyperError: " ++ detail
  | .unreadable => "Error deserializing response"

/-- An attachment, or the volume behind it, that cannot be worked on. -/
inductive AttachmentProblem where
  | notPersistentVolume
  | notDriverVolume
  | foreignDriver (driver : String)
  | noSpec
  | accessModes (modes : List String)
  | stated (text : String)
  deriving DecidableEq

def AttachmentProblem.message : AttachmentProblem → String
  | .notPersistentVolume => "only PersistentVolume sources are supported"
  | .notDriverVolume => "PersistentVolume is not a CSI volume"
  | .foreignDriver driver => "volume belongs to driver " ++ driver
  | .noSpec => "PersistentVolume has no spec"
  | .accessModes modes => "unsupported access modes " ++ Text.quotedList modes
  | .stated text => text

/-- What went wrong. -/
inductive Fault where
  | internal (detail : String)
  | configuration (problem : SettingsProblem)
  | cluster (problem : ClusterProblem)
  | notFound (kind name : String)
  | connection (address reason : String)
  | identityUnavailable (reason : String)
  | capabilityQuery (query reason : String)
  | driverStatus (operation : String) (code : StatusCode) (message : String)
  | driverTimeout (operation : String) (timeout : Duration)
  | driverUnsupported (operation : String)
  | lockConflict (lock : String)
  | lockMalformed (lock reason : String)
  | invalidAttachment (name : String) (problem : AttachmentProblem)
  | nodeIdUnavailable (node driver : String)
  | durationUnreadable (detail : String)
  | jsonUnreadable (detail : String)
  | metrics (detail : String)
  | inputOutput (detail : String)
  deriving DecidableEq

/-- What the controller does with a key whose reconciliation failed. -/
inductive Retry where
  /-- Try again after the next backoff interval. -/
  | backoff
  /-- Try again after a fixed time. -/
  | after (delay : Duration)
  /-- Wait until the object changes. -/
  | never
  deriving DecidableEq

namespace Fault

/-- The text that reports a fault. -/
def message : Fault → String
  | .internal detail => "Internal error: " ++ detail
  | .configuration problem => "Configuration error: " ++ problem.message
  | .cluster problem => "Kubernetes API error: " ++ problem.message
  | .notFound kind name => "Resource not found: " ++ kind ++ "/" ++ name
  | .connection address reason =>
    "Failed to connect to CSI driver at " ++ address ++ ": " ++ reason
  | .identityUnavailable reason => "CSI driver identity unavailable: " ++ reason
  | .capabilityQuery query reason => "CSI capability query " ++ query ++ " failed: " ++ reason
  | .driverStatus operation code message =>
    "CSI call " ++ operation ++ " failed: " ++ code.name ++ ": " ++ message
  | .driverTimeout operation timeout =>
    "CSI call " ++ operation ++ " timed out after " ++ timeout.render
  | .driverUnsupported operation => "CSI driver does not implement " ++ operation
  | .lockConflict lock => "Leader election record " ++ lock ++ " was modified concurrently"
  | .lockMalformed lock reason =>
    "Leader election record " ++ lock ++ " is malformed: " ++ reason
  | .invalidAttachment name problem =>
    "Invalid VolumeAttachment " ++ name ++ ": " ++ problem.message
  | .nodeIdUnavailable node driver =>
    "Node " ++ node ++ " has no ID registered for driver " ++ driver
  | .durationUnreadable detail => "Duration parse error: " ++ detail
  | .jsonUnreadable detail => "JSON parse error: " ++ detail
  | .metrics detail => "Metrics error: " ++ detail
  | .inputOutput detail => "IO error: " ++ detail

/-- How long to wait for a node to register with the driver. -/
def registrationDelay : Duration := .ofSeconds 10

/-- What to do about a fault. A definite answer of the driver and malformed objects or settings wait
for a change; everything else is tried again. -/
def retry : Fault → Retry
  | .driverStatus _ code _ => if code.isTransient then .backoff else .never
  | .nodeIdUnavailable _ _ => .after registrationDelay
  | .driverUnsupported _ => .never
  | .invalidAttachment _ _ => .never
  | .configuration _ => .never
  | .durationUnreadable _ => .never
  | _ => .backoff

/-- Whether trying again may help. -/
def isRetryable (fault : Fault) : Bool :=
  fault.retry != .never

/-- Whether the fault is expected to pass by itself. -/
def isTransient : Fault → Bool
  | .cluster _ => true
  | .driverTimeout _ _ => true
  | .lockConflict _ => true
  | .driverStatus _ code _ => code.isTransient
  | _ => false

end Fault

end VolumeAttacher
