import VolumeAttacher.Settings
import VolumeAttacher.Text.Quoted

/-!
# Showing settings

The one-line text that shows all settings with their names.
-/

namespace VolumeAttacher

/-- A named group of named texts. -/
def showGroup (name : String) (members : List (String × String)) : String :=
  name ++ " \x7b " ++ ", ".intercalate (members.map fun member => member.1 ++ ": " ++ member.2) ++
    " \x7d"

/-- A text in quotes, or that there is none. -/
def showOptional : Option String → String
  | none => "None"
  | some text => "Some(" ++ Text.quoted text ++ ")"

namespace Timing

def describe (timing : Timing) : String :=
  showGroup "LeaderElectionConfig" [
    ("lease_duration", timing.lease.render),
    ("renew_deadline", timing.renew.render),
    ("retry_period", timing.retry.render),
    ("stop_grace_period", timing.grace.render)]

end Timing

namespace LockKind

def describe : LockKind → String
  | .configMaps => "ConfigMaps"
  | .leases => "Leases"

end LockKind

namespace ElectionSettings

def describe (settings : ElectionSettings) : String :=
  showGroup "LeaderElectionSettings" [
    ("enabled", toString settings.enabled),
    ("kind", settings.kind.describe),
    ("namespace", showOptional settings.nameSpace),
    ("timing", settings.timing.describe)]

end ElectionSettings

namespace Settings

def describe (settings : Settings) : String :=
  showGroup "AttacherConfig" [
    ("kubeconfig", showOptional settings.kubeconfig),
    ("resync", settings.resync.render),
    ("csi_address", Text.quoted settings.address),
    ("dummy", toString settings.dummy),
    ("timeout", settings.timeout.render),
    ("retry_interval_start", settings.retryStart.render),
    ("retry_interval_max", settings.retryMaximum.render),
    ("leader_election", settings.election.describe),
    ("http_endpoint", showOptional settings.endpoint)]

end Settings

end VolumeAttacher
