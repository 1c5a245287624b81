import VolumeAttacher.Rehearsal.DriverScript

/-!
# Rehearsing a discovery

The questions that a scripted driver is asked, when each is asked, and what comes of it. Times are
in milliseconds.
-/

namespace VolumeAttacher.Rehearsal

/-- The questions asked so far, and the time. -/
structure QueryLog where
  now : Nat
  asked : List (Nat × DriverQuery)

namespace QueryLog

def empty : QueryLog := ⟨0, []⟩

/-- A question that takes some time. -/
def ask (log : QueryLog) (query : DriverQuery) (millis : Nat) : QueryLog :=
  ⟨log.now + millis, log.asked ++ [(log.now, query)]⟩

/-- A pause. -/
def pause (log : QueryLog) (duration : Duration) : QueryLog :=
  { log with now := log.now + duration.millisUp }

end QueryLog

/-- Probe until the driver is ready. -/
def waitUntilReady (timeout : Duration) (log : QueryLog) :
    List (ScriptedCall Bool) → QueryLog × Except Fault Unit
  | [] => (log.ask .probe 0, .ok ())
  | call :: rest =>
    let (reply, millis) := call.within timeout
    let log := log.ask .probe millis
    match Discovery.readiness reply with
    | .ready => (log, .ok ())
    | .failed fault => (log, .error fault)
    | .notYet => waitUntilReady timeout (log.pause Discovery.probePause) rest

/-- Ask for the name and the capabilities. -/
def askAll (script : DriverScript) (timeout : Duration) (log : QueryLog) :
    QueryLog × Except Fault Discovery :=
  let (reply, millis) := script.name.within timeout
  let log := log.ask .name millis
  match Discovery.name timeout reply with
  | .error fault => (log, .error fault)
  | .ok driver =>
    let (reply, millis) := script.services.within timeout
    let log := log.ask .services millis
    match Discovery.declared .services timeout reply with
    | .error fault => (log, .error fault)
    | .ok services =>
      let (reply, millis) := script.operations.within timeout
      let log := log.ask .operations millis
      match Discovery.declared .operations timeout reply with
      | .error fault => (log, .error fault)
      | .ok operations => (log, .ok ⟨driver, .ofLists services operations⟩)

/-- A whole discovery. -/
def discover (script : DriverScript) (probeTimeout : Duration) :
    QueryLog × Except Fault Discovery :=
  match waitUntilReady probeTimeout .empty script.probes with
  | (log, .error fault) => (log, .error fault)
  | (log, .ok ()) => askAll script Discovery.queryTimeout log

/-- What is seen of a discovery up to a time: how long it took, what was asked, and the result if
there is one by then. -/
structure DiscoveryView where
  elapsed : Nat
  asked : List (Nat × DriverQuery)
  result : Option (Except Fault Discovery)

/-- What is seen up to a time. -/
def viewUntil (limit : Nat) (run : QueryLog × Except Fault Discovery) : DiscoveryView :=
  if run.1.now ≤ limit then ⟨run.1.now, run.1.asked, some run.2⟩
  else ⟨limit, run.1.asked.filter (·.1 ≤ limit), none⟩

end VolumeAttacher.Rehearsal
