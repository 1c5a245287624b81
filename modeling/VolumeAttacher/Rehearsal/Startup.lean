import VolumeAttacher.Election.Entry
import VolumeAttacher.Election.Supervision
import VolumeAttacher.Rehearsal.Discovering
import VolumeAttacher.Startup

/-!
# Rehearsed programs

A whole run of the program with a scripted driver, while the cluster's server cannot be reached. The
driver is discovered and the election is entered, but no candidate gets the lock, because each
attempt to read it fails.
-/

namespace VolumeAttacher.Rehearsal

/-- How a run is ended from outside. -/
inductive RunEnding where
  /-- The program is told to stop, by a signal of some name if it is one. -/
  | shutDown (signal : Option String)
  /-- The driver closes its connection. -/
  | loss

/-- What a run starts from. -/
structure RunPlan where
  settings : Settings
  /-- The namespace of the client to the cluster. -/
  clientNamespace : String
  /-- The driver, if somebody listens on its socket. -/
  driver : Option DriverScript
  ending : RunEnding
  /-- How long the run goes on before it is ended. -/
  patience : Duration

/-- What is seen of a run: the questions to the driver, the lines of the log, and the result. -/
structure RunView where
  asked : List DriverQuery
  lines : List LogLine
  result : Except Fault Unit

namespace RunPlan

/-- What the system says of an attempt to reach the server. -/
def unreachable : Fault :=
  .cluster (.unreachable
    "error trying to connect: tcp connect error: Network is unreachable (os error 101)")

/-- The target of lines about elections. -/
def electionTarget : String := "csi_attacher::leaderelection"

/-- The line about an attempt to read the lock. -/
def attemptLine (lock : LockObject) : LogLine :=
  ⟨.warn, electionTarget,
    "Error retrieving lock " ++ lock.describe ++ ": " ++ unreachable.message⟩

/-- The line about a kind of lock that should not be used any more. -/
def kindLines (kind : LockKind) : List LogLine :=
  match kind with
  | .leases => []
  | .configMaps =>
    [⟨.warn, electionTarget, "The '" ++ LockKind.configMaps.name ++
      "' leader election type is deprecated and will be removed in a future release. Use " ++
      "'--leader-election-type=" ++ LockKind.leases.name ++ "' instead."⟩]

/-- The lines of an election of a number of attempts, unless its settings are refused. -/
def electionLines (plan : RunPlan) (driver : DriverName) (attempts : Nat) :
    Except Fault (List LogLine) :=
  let election := plan.settings.election
  if !election.enabled then .ok []
  else
    let entry : Entry := ⟨election.timing, driver.lockName, election.nameSpace⟩
    match entry.lockObject election.kind plan.clientNamespace with
    | .error problem => .error (.configuration problem)
    | .ok lock =>
      .ok (kindLines election.kind ++ List.replicate attempts (attemptLine lock))

/-- How many attempts a candidate makes before the run is ended. -/
def attempts (plan : RunPlan) : Nat :=
  plan.patience.nanos / plan.settings.election.timing.retry.nanos + 1

/-- The lines after a run that ended without a fault. -/
def farewell (ending : RunEnding) : List LogLine :=
  (match ending with
    | .shutDown (some signal) =>
      [Startup.info ("Received SIG" ++ signal ++ ", shutting down")]
    | _ => []) ++
    [⟨.warn, "csi_attacher::bootstrap", "Attacher stopped"⟩,
     Startup.info "CSI attacher shutdown complete"]

/-- How the supervision of a run ends: a connection that was lost is a fault of the driver's
address. -/
def outcome (plan : RunPlan) (isLost : Bool) : Except Fault Unit :=
  if isLost then .error (.connection plan.settings.address "connection lost") else .ok ()

/-- The election, and the end of the run. A driver that takes no part in attaching is not connected
to any more, so its connection is lost at once. -/
def afterDiscovery (plan : RunPlan) (discovery : Discovery) : List LogLine × Except Fault Unit :=
  let isDropped := !plan.settings.dummy && discovery.strategy.isTrivial
  match plan.electionLines discovery.driver (if isDropped then 1 else plan.attempts) with
  | .error fault => ([], .error fault)
  | .ok lines =>
    let isLost := isDropped || match plan.ending with
      | .loss => !plan.settings.dummy
      | .shutDown _ => false
    match plan.outcome isLost with
    | .error fault => (lines, .error fault)
    | .ok () => (lines ++ farewell plan.ending, .ok ())

end RunPlan

/-- A run whose settings and connections are in order. -/
def runProgram (plan : RunPlan) (script : DriverScript) : RunView :=
  let (log, result) := discover script plan.settings.timeout
  let asked := if plan.settings.dummy then [] else log.asked.map Prod.snd
  match result with
  | .error fault => ⟨asked, [], .error fault⟩
  | .ok discovery =>
    let (lines, result) := plan.afterDiscovery discovery
    ⟨asked, lines, result⟩

/-- The driver that a run talks to: none in dummy mode. -/
def RunPlan.script (plan : RunPlan) : Except Fault DriverScript :=
  if plan.settings.dummy then .ok .dummy
  else
    match Startup.connect plan.settings.address plan.driver.isSome, plan.driver with
    | (_, .error fault), _ => .error fault
    | (_, .ok ()), some script => .ok script
    | (_, .ok ()), none => .error (Startup.nobodyListens plan.settings.address)

/-- What is seen of a run. -/
def RunPlan.view (plan : RunPlan) : RunView :=
  match plan.settings.check fun _ => true with
  | .error problem => ⟨[], [], .error (.configuration problem)⟩
  | .ok () =>
    match plan.script with
    | .error fault => ⟨[], [], .error fault⟩
    | .ok script => runProgram plan script

/-- The lines of a program with the given arguments, and whether it succeeds. -/
def RunPlan.program (plan : RunPlan) (arguments : Arguments) : RunView × List LogLine :=
  match plan.settings.endpoint.map Endpoint.ofSetting with
  | some (.error fault) =>
    (⟨[], [], .error fault⟩, Startup.greeting arguments ++ [Startup.failure fault])
  | _ =>
    let view := plan.view
    let last := match view.result with
      | .ok () => []
      | .error fault => [Startup.failure fault]
    (view, Startup.greeting arguments ++ view.lines ++ last)

end VolumeAttacher.Rehearsal
