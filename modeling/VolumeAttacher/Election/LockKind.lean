import VolumeAttacher.Fault
import VolumeAttacher.Json

/-!
# Kinds of locks

Where the record of an election is kept.
-/

namespace VolumeAttacher

/-- Where the record of an election is kept. -/
inductive LockKind where
  /-- An annotation of a configuration map. -/
  | configMaps
  /-- The specification of a lease. -/
  | leases
  deriving DecidableEq, Inhabited

namespace LockKind

def name : LockKind → String
  | .configMaps => "configmaps"
  | .leases => "leases"

/-- The kind of a name. -/
def ofName? (name : String) : Option LockKind :=
  [configMaps, leases].find? fun kind => kind.name = name

/-- The kind that a setting asks for. -/
def ofText (text : String) : Except SettingsProblem LockKind :=
  match ofName? text with
  | some kind => .ok kind
  | none => .error (.lockKind text)

/-- A kind as its name, also as the name of a member that is null. -/
def ofJson? (value : Json) : Option LockKind := value.choice?.bind ofName?

end LockKind

end VolumeAttacher
