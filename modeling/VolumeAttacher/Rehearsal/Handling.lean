import VolumeAttacher.Rehearsal.DriverScript

/-!
# Rehearsing driver calls

A list of attachments and detachments that are made with a strategy, one after the other. Times are
in milliseconds.
-/

namespace VolumeAttacher.Rehearsal

/-- One attachment or detachment. -/
inductive HandlingStep where
  | attach (request : PublishRequest)
  | detach (request : UnpublishRequest)

/-- What the driver was asked. -/
inductive HandlingCall where
  | publish (request : PublishRequest)
  | unpublish (request : UnpublishRequest)

/-- What came of one step: metadata, or that the volume is detached. -/
inductive HandlingResult where
  | attached (metadata : Json.TextMap)
  | detached

/-- What is seen of one step: when it ended, what the driver was asked and when, and the result. -/
structure HandlingView where
  ended : Nat
  call : Option (Nat × HandlingCall)
  result : Except Fault HandlingResult

/-- A driver: none, or one that follows a script. -/
inductive RehearsedDriver where
  | none
  | scripted (script : DriverScript)

/-- Publish a volume with the driver: the reply, how long it takes, whether the driver saw it, and
the driver after it. -/
def RehearsedDriver.publish (driver : RehearsedDriver) (request : PublishRequest)
    (timeout : Duration) : Reply Json.TextMap × Nat × Bool × RehearsedDriver :=
  match driver with
  | .none => (.answered (.error (.driverUnsupported publishOperation)), 0, false, .none)
  | .scripted script =>
    let (call, script) := script.publish request.volumeId
    let (reply, millis) := call.within timeout
    (reply, millis, true, .scripted script)

/-- Withdraw a volume with the driver. -/
def RehearsedDriver.unpublish (driver : RehearsedDriver) (request : UnpublishRequest)
    (timeout : Duration) : Reply Unit × Nat × Bool × RehearsedDriver :=
  match driver with
  | .none => (.answered (.error (.driverUnsupported unpublishOperation)), 0, false, .none)
  | .scripted script =>
    let (call, script) := script.unpublish request.volumeId
    let (reply, millis) := call.within timeout
    (reply, millis, true, .scripted script)

/-- One step at a time. -/
def handle
    (strategy : Strategy)
    (timeout : Duration)
    (now : Nat)
    (driver : RehearsedDriver)
    (step : HandlingStep) : RehearsedDriver × HandlingView :=
  match strategy, step with
  | .trivial, .attach _ => (driver, ⟨now, none, .ok (.attached [])⟩)
  | .trivial, .detach _ => (driver, ⟨now, none, .ok .detached⟩)
  | .driverBacked honorsReadOnly, .attach request =>
    let request := request.masked honorsReadOnly
    let (reply, millis, seen, driver) := driver.publish request timeout
    (driver, ⟨now + millis, if seen then some (now, .publish request) else none,
      (reply.result publishOperation timeout).map .attached⟩)
  | .driverBacked _, .detach request =>
    let (reply, millis, seen, driver) := driver.unpublish request timeout
    (driver, ⟨now + millis, if seen then some (now, .unpublish request) else none,
      (reply.result unpublishOperation timeout).map fun _ => .detached⟩)

/-- What is seen of each of a list of steps. -/
def handleAll (strategy : Strategy) (timeout : Duration) (now : Nat) (driver : RehearsedDriver) :
    List HandlingStep → List HandlingView
  | [] => []
  | step :: rest =>
    let (driver, view) := handle strategy timeout now driver step
    view :: handleAll strategy timeout view.ended driver rest

end VolumeAttacher.Rehearsal
