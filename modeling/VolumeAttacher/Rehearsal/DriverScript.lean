import VolumeAttacher.Discovery

/-!
# Scripted drivers

A driver that answers each call as a script says, after a delay. Times are in milliseconds.
-/

namespace VolumeAttacher.Rehearsal

/-- The answer to a call, and the time until it comes. -/
structure ScriptedCall (α : Type) where
  delay : Nat
  result : Except Fault α

/-- A driver's script. Probes, and the calls about each volume, are used up in order; after them
comes what a driver without complaints answers at once. -/
structure DriverScript where
  name : ScriptedCall String
  services : ScriptedCall (List ServiceCapability)
  operations : ScriptedCall (List ControllerCapability)
  probes : List (ScriptedCall Bool)
  publishes : List (String × List (ScriptedCall Json.TextMap))
  unpublishes : List (String × List (ScriptedCall Unit))

namespace ScriptedCall

variable {α : Type}

/-- An answer that comes at once. -/
def atOnce (value : α) : ScriptedCall α := ⟨0, .ok value⟩

/-- What the caller sees who waits for a limited time, and how long it takes. An answer that comes
at the very end of this time still counts. -/
def within (call : ScriptedCall α) (limit : Duration) : Reply α × Nat :=
  if call.delay ≤ limit.millisUp then (.answered call.result, call.delay)
  else (.timedOut, limit.millisUp)

/-- The first of a list of calls of a key, and the lists without it. -/
def takeFor (calls : List (String × List (ScriptedCall α))) (key : String) :
    Option (ScriptedCall α) × List (String × List (ScriptedCall α)) :=
  match calls with
  | [] => (none, [])
  | (name, pending) :: rest =>
    if name = key then
      match pending with
      | [] => (none, (name, []) :: rest)
      | call :: others => (some call, (name, others) :: rest)
    else
      let (call, rest) := takeFor rest key
      (call, (name, pending) :: rest)

end ScriptedCall

namespace DriverScript

/-- A driver whose publishing and unpublishing fail because it does not have them. -/
def dummy : DriverScript where
  name := .atOnce DriverName.dummy.text
  services := .atOnce []
  operations := .atOnce []
  probes := []
  publishes := []
  unpublishes := []

/-- The answer to the next call that publishes a volume. -/
def publish (script : DriverScript) (volume : String) :
    ScriptedCall Json.TextMap × DriverScript :=
  let (call, publishes) := ScriptedCall.takeFor script.publishes volume
  (call.getD (.atOnce []), { script with publishes })

/-- The answer to the next call that withdraws a volume. -/
def unpublish (script : DriverScript) (volume : String) : ScriptedCall Unit × DriverScript :=
  let (call, unpublishes) := ScriptedCall.takeFor script.unpublishes volume
  (call.getD (.atOnce ()), { script with unpublishes })

end DriverScript

end VolumeAttacher.Rehearsal
