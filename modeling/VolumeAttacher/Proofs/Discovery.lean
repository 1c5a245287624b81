import Mathlib.Algebra.Ring.Nat
import VolumeAttacher.Rehearsal.Discovering

/-!
# The course of a discovery

A discovery makes inquiries one after the other: probes until one is not to be repeated, and then
the questions for the name, the services and the operations. It ends with the first inquiry that brings
a fault, and takes as long as the inquiries that were made and the pauses between them.
-/

namespace VolumeAttacher.Rehearsal

namespace ScriptedCall

variable {α : Type} (call : ScriptedCall α) (limit : Duration)

/-- The answer comes too late for a caller who waits for a limited time. -/
def isLate : Bool := limit.millisUp < call.delay

/-- The time that a caller spends who waits for a limited time. -/
def spent : Nat := min call.delay limit.millisUp

/-- In words, why a caller who waits for a limited time gets no result. -/
def failure? (operation : String) : Option String :=
  if call.isLate limit then some (operation ++ " timed out after " ++ limit.render)
  else
    match call.result with
    | .ok _ => none
    | .error fault => some fault.message

/-- The fault that is the answer. -/
def fault? : Option Fault :=
  match call.result with
  | .ok _ => none
  | .error fault => some fault

/-- A probe after which the driver is probed again: it is not ready, it is unavailable or took too
long by its own account, or it does not answer in time. -/
def isRepeated (probe : ScriptedCall Bool) (limit : Duration) : Bool :=
  probe.isLate limit ||
    match probe.result with
    | .ok ready => !ready
    | .error (.driverStatus _ code _) => code = .unavailable || code = .deadlineExceeded
    | .error _ => false

variable {call} {limit}

end ScriptedCall

/-- A question of a discovery, in milliseconds how long it takes and how long the pause after it is,
and the fault that it brings, if any. -/
structure Inquiry where
  query : DriverQuery
  millis : Nat
  pause : Nat
  fault : Option Fault

namespace Inquiry

/-- The inquiries that are made: all up to the first that brings a fault. -/
def made : List Inquiry → List Inquiry
  | [] => []
  | inquiry :: rest => inquiry :: if inquiry.fault.isSome then [] else made rest

/-- When each question is asked, the first at a given time. -/
def timetable (start : Nat) : List Inquiry → List (Nat × DriverQuery)
  | [] => []
  | inquiry :: rest =>
    (start, inquiry.query) :: timetable (start + inquiry.millis + inquiry.pause) rest

/-- How long inquiries and the pauses after them take. -/
def length (inquiries : List Inquiry) : Nat :=
  (inquiries.map fun inquiry => inquiry.millis + inquiry.pause).sum

/-- The fault that ends a discovery. -/
def fault? (inquiries : List Inquiry) : Option Fault := inquiries.findSome? Inquiry.fault

end Inquiry

namespace QueryLog

/-- A log after inquiries. -/
def follow (log : QueryLog) (inquiries : List Inquiry) : QueryLog :=
  ⟨log.now + Inquiry.length inquiries, log.asked ++ Inquiry.timetable log.now inquiries⟩

end QueryLog

namespace DriverScript

variable (script : DriverScript) (timeout : Duration)

/-- The probes after which the driver is probed again. -/
def repeatedProbes : List (ScriptedCall Bool) := script.probes.takeWhile (·.isRepeated timeout)

/-- The first probe that is not to be repeated. After its script a driver is ready at once. -/
def lastProbe : ScriptedCall Bool :=
  (script.probes.dropWhile (·.isRepeated timeout)).head?.getD (.atOnce true)

/-- Why there is no name. -/
def nameFault? : Option Fault :=
  match script.name.failure? (.ofSeconds 1) "GetPluginInfo" with
  | some reason => some (.identityUnavailable reason)
  | none =>
    match script.name.result with
    | .ok "" => some (.identityUnavailable "driver name is empty")
    | _ => none

/-- Why there is no list of services. -/
def servicesFault? : Option Fault :=
  (script.services.failure? (.ofSeconds 1) "GetPluginCapabilities").map
    (.capabilityQuery "GetPluginCapabilities")

/-- Why there is no list of operations. -/
def operationsFault? : Option Fault :=
  (script.operations.failure? (.ofSeconds 1) "ControllerGetCapabilities").map
    (.capabilityQuery "ControllerGetCapabilities")

/-- The questions to a driver that is ready. -/
def questions : List Inquiry :=
  [⟨.name, script.name.spent (.ofSeconds 1), 0, script.nameFault?⟩,
    ⟨.services, script.services.spent (.ofSeconds 1), 0, script.servicesFault?⟩,
    ⟨.operations, script.operations.spent (.ofSeconds 1), 0, script.operationsFault?⟩]

/-- A probe that is repeated after a second. -/
def repeatedInquiry (probe : ScriptedCall Bool) : Inquiry :=
  ⟨.probe, probe.spent timeout, 1000, none⟩

/-- The inquiries about a driver, as long as none brings a fault. -/
def inquiries : List Inquiry :=
  (script.repeatedProbes timeout).map (repeatedInquiry timeout) ++
    ⟨.probe, (script.lastProbe timeout).spent timeout, 0, (script.lastProbe timeout).fault?⟩ ::
      script.questions

end DriverScript

/-! ## Probes -/

namespace ScriptedCall

variable {α : Type} {call : ScriptedCall α} {limit : Duration} (query : DriverQuery)

end ScriptedCall

namespace DriverScript

variable {script : DriverScript}

/-- What the driver says is what a discovery tells. -/
def Tells (script : DriverScript) (discovery : Discovery) : Prop :=
  ∃ services operations,
    script.name.result = .ok discovery.driver.text ∧
    script.services.result = .ok services ∧
    script.operations.result = .ok operations ∧
    discovery.capabilities = .ofLists services operations

/-- The result of a discovery is the fault that ended it, or what the driver says. -/
def Yields (script : DriverScript) (result : Except Fault Discovery) : Option Fault → Prop
  | some fault => result = .error fault
  | none => ∃ discovery, result = .ok discovery ∧ script.Tells discovery

end DriverScript

end VolumeAttacher.Rehearsal
