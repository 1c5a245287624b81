import VolumeAttacher.Election.Label
import VolumeAttacher.Election.LockObject
import VolumeAttacher.Election.Timing

/-!
# Entering an election

What is checked before a candidate takes part in an election: its timing, the name of the lock, and
the namespace of the lock.
-/

namespace VolumeAttacher

/-- With which settings a candidate enters an election. -/
structure Entry where
  timing : Timing
  lockName : String
  /-- The namespace of the lock, if it is not the one of the client. -/
  nameSpace : Option String
  deriving DecidableEq

namespace Entry

/-- Accept only settings that an election can run with. -/
def check (entry : Entry) : Except SettingsProblem Unit := do
  entry.timing.check
  Label.checkLockName entry.lockName
  match entry.nameSpace with
  | some nameSpace => Label.checkNamespace nameSpace
  | none => pure ()

/-- The object that holds the lock, for a client with a namespace of its own. -/
def lockObject (entry : Entry) (kind : LockKind) (clientNamespace : String) :
    Except SettingsProblem LockObject := do
  entry.check
  let nameSpace := entry.nameSpace.getD clientNamespace
  Label.checkNamespace nameSpace
  return ⟨kind, nameSpace, entry.lockName⟩

end Entry

end VolumeAttacher
