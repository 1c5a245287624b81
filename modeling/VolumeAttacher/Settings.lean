import VolumeAttacher.Duration.Reader
import VolumeAttacher.Election.LockKind
import VolumeAttacher.Election.Timing
import VolumeAttacher.Text.Blank

/-!
# Settings

What the attacher is told at its start, what is assumed where nothing is said, and what it refuses
to start with.
-/

namespace VolumeAttacher

/-- The settings of the election. -/
structure ElectionSettings where
  /-- Several replicas run, and only the one that holds the lock works. -/
  enabled : Bool
  kind : LockKind
  /-- The namespace of the lock object; that of the client if absent. -/
  nameSpace : Option String
  timing : Timing
  deriving DecidableEq

/-- The settings of the attacher. -/
structure Settings where
  /-- The file that tells how to reach the cluster; the surroundings of a pod tell it if absent. -/
  kubeconfig : Option String
  /-- The time between looks at everything in the caches. -/
  resync : Duration
  address : String
  /-- No driver is contacted. -/
  dummy : Bool
  /-- The time that a driver call may take. -/
  timeout : Duration
  retryStart : Duration
  retryMaximum : Duration
  election : ElectionSettings
  /-- Where health and metrics are served. -/
  endpoint : Option String
  deriving DecidableEq

namespace ElectionSettings

def standard : ElectionSettings := ⟨false, .configMaps, none, .standard⟩

end ElectionSettings

namespace Settings

/-- The duration that the text of a setting stands for. -/
def duration (text : String) : Except Fault Duration :=
  match Duration.ofText text with
  | .ok duration => .ok duration
  | .error problem => .error (.durationUnreadable
      ("invalid duration " ++ Text.quoted text ++ ": " ++ problem.message))

/-- The settings where nothing is set. -/
def standard : Settings where
  kubeconfig := none
  resync := .ofSeconds 600
  address := "/run/csi/socket"
  dummy := false
  timeout := .ofSeconds 15
  retryStart := .ofSeconds 1
  retryMaximum := .ofSeconds 300
  election := .standard
  endpoint := none

/-- The number of workers of each queue. -/
def workers : Nat := 10

/-- Accept only settings that the attacher can start with. The test says which paths are files. -/
def check (settings : Settings) (isFile : String → Bool) : Except SettingsProblem Unit := do
  match settings.kubeconfig with
  | some path => if !isFile path then throw (.kubeconfigMissing path)
  | none => pure ()
  if settings.timeout.isZero then throw .timeoutZero
  if settings.resync.isZero then throw .resyncZero
  if settings.retryStart.isZero then throw .retryStartZero
  if settings.retryMaximum.nanos < settings.retryStart.nanos then
    throw (.retryOrder settings.retryStart settings.retryMaximum)
  if !settings.dummy && (Text.trim settings.address.toList).isEmpty then throw .addressBlank
  if settings.election.enabled then settings.election.timing.check

end Settings

end VolumeAttacher
