import VolumeAttacher.CommandLine
import VolumeAttacher.Driver.Address
import VolumeAttacher.Endpoint
import VolumeAttacher.Kubeconfig

/-!
# Starting

What an attacher does before it reaches the driver: it says what it was told, checks its settings,
finds out how to reach the cluster, and looks for the driver's socket. The lines that it logs go with
the result.
-/

namespace VolumeAttacher
namespace Startup

/-- The version of the program. -/
def version : String := "0.3.0"

/-- The name of the program. -/
def programName : String := "csi-attacher"

/-- The target of the program's own lines. -/
def ownTarget : String := "csi_attacher"

/-- A line about the course of things. -/
def info (message : String) : LogLine := ⟨.info, ownTarget, message⟩

/-- A line about something that works but should not be relied on. -/
def warning (message : String) : LogLine := ⟨.warn, ownTarget, message⟩

/-- The line about the fault that ends the program. -/
def failure (fault : Fault) : LogLine := ⟨.error, ownTarget, fault.message⟩

/-- What the program says of the arguments that have no effect any more. -/
def deprecations (arguments : Arguments) : List LogLine :=
  (if arguments.connectionTimeout.isZero then []
    else [warning "--connection-timeout is deprecated and will have no effect"]) ++
  (if arguments.electionIdentity.isNone then []
    else [warning "--leader-election-identity is deprecated and will have no effect"])

/-- What the program says first. -/
def greeting (arguments : Arguments) : List LogLine :=
  let settings := arguments.settings
  [info "Starting CSI attacher", info ("  Version: " ++ version)] ++ deprecations arguments ++
    [info ("  CSI address: " ++ settings.address),
     info ("  Timeout: " ++ settings.timeout.render),
     info ("  Leader election: " ++ toString settings.election.enabled),
     info ("  Resync: " ++ settings.resync.render),
     info ("  Retry interval: " ++ settings.retryStart.render ++ " .. " ++
        settings.retryMaximum.render)]

/-- The files that can be read, by path. -/
abbrev Files := String → Option String

/-- The namespace of the client to the cluster. Outside a pod the cluster can only be found with a
file that tells how. -/
def clientNamespace (settings : Settings) (files : Files) : Except Fault String := do
  match settings.check fun path => (files path).isSome with
  | .error problem => throw (.configuration problem)
  | .ok () => pure ()
  match settings.kubeconfig with
  | none => throw (.configuration (.notInCluster "the program does not run in a pod"))
  | some path =>
    match Kubeconfig.clientNamespace path ((files path).getD "") with
    | .ok nameSpace => return nameSpace
    | .error problem => throw (.configuration problem)

/-- The fault of a connection to a socket that nobody listens on. -/
def nobodyListens (address : String) : Fault := .connection address "transport error"

/-- The line about the socket that is connected to. -/
def connecting (path : String) : LogLine :=
  ⟨.info, "csi_attacher::plugin::grpc", "Connecting to CSI driver at " ++ path⟩

/-- Look for the driver, and find whether somebody listens. -/
def connect (address : String) (isListening : Bool) : List LogLine × Except Fault Unit :=
  match DriverAddress.path? address with
  | .error fault => ([], .error fault)
  | .ok path =>
    ([connecting path], if isListening then .ok () else .error (nobodyListens address))

/-- Everything up to the connection to the driver: the lines, and the namespace of the client. -/
def prepare (arguments : Arguments) (files : Files) (isListening : Bool) :
    List LogLine × Except Fault String :=
  let settings := arguments.settings
  let endpoint := settings.endpoint.map Endpoint.ofSetting
  match endpoint, clientNamespace settings files with
  | some (.error fault), _ => (greeting arguments, .error fault)
  | _, .error fault => (greeting arguments, .error fault)
  | _, .ok nameSpace =>
    if settings.dummy then
      (greeting arguments ++
        [⟨.info, "csi_attacher::bootstrap",
          "Running in dummy mode, no CSI driver is contacted"⟩], .ok nameSpace)
    else
      let (lines, result) := connect settings.address isListening
      (greeting arguments ++ lines, result.map fun () => nameSpace)

/-- What is kept of the log, given what variables of the environment ask for. -/
def logFilter (arguments : Arguments) (environment : String → Option String) : LogFilter :=
  ⟨arguments.logLevel, LogDirective.ofList ((environment "RUST_LOG").getD "")⟩

end Startup

end VolumeAttacher
