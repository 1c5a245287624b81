import VolumeAttacher.Election.Leadership
import VolumeAttacher.Election.Lock
import VolumeAttacher.Election.Timing

/-!
# Candidacies

How a candidate gets the lock, works while it holds it, renews it, and gives it up. Everything
that happens to the candidate is an event, and everything it does is an action, so that a run of the
election is the list of both.

A candidate judges whether the record of another one expired by its own clock, from the moment it
first saw this record in this version. The times in the record are never compared. What a record
counts is checked arithmetic: a run that would count past the greatest number breaks down.
-/

namespace VolumeAttacher

/-- Who takes part in an election, and its timing. -/
structure Candidate where
  identity : String
  timing : Timing
  deriving DecidableEq

/-- A moment: the nanoseconds of a clock that only goes forward, and the time of day. -/
structure Moment where
  instant : Nat
  clock : Timestamp
  deriving DecidableEq, Inhabited

/-- What a candidate last saw of the lock, and since when. The version of the candidate's own writes
is not known. -/
structure Observation where
  record : Record
  version : String
  since : Nat
  deriving DecidableEq

/-- An attempt to get or to renew the lock, by the call whose answer it waits for. -/
inductive Attempt where
  /-- It reads the lock; it began at the given time. -/
  | reading (began : Timestamp)
  | creating (desired : Record)
  | updating (desired : Record)
  deriving DecidableEq

/-- Giving up the lock, by the call whose answer is waited for. -/
inductive Release where
  | reading
  | writing (released : Record)
  deriving DecidableEq

/-- Why work has to stop. -/
inductive Ending where
  /-- The lock was not renewed in time. -/
  | lost
  /-- The candidate was told to stop. -/
  | shutDown
  deriving DecidableEq

/-- What a candidate is doing. Times are those for which the timer is set that lets it go on by
itself. -/
inductive Phase where
  | idle
  /-- It tries to get the lock. -/
  | acquiring (attempt : Attempt)
  /-- It waits for its next attempt to get the lock. -/
  | pausing (wake : Nat)
  /-- It works and waits for the next renewal. -/
  | resting (wake : Nat)
  /-- It works and tries to renew the lock. -/
  | renewing (attempt : Attempt) (deadline : Nat)
  /-- It works and waits for the next attempt of this renewal. -/
  | retrying (wake : Nat) (deadline : Nat)
  /-- It waits for its work to stop. -/
  | stopping (ending : Ending) (deadline : Nat)
  | releasing (release : Release)
  | done
  deriving DecidableEq

/-- The state of a candidate. -/
structure Candidacy where
  phase : Phase
  leadership : Leadership
  observed : Option Observation
  /-- The candidate was told to stop. -/
  shutDown : Bool
  deriving DecidableEq

/-- What happens to a candidate. -/
inductive ElectionEvent where
  | start
  /-- The lock answers the pending call. -/
  | reply (reply : LockReply)
  /-- Time passes. -/
  | tick
  /-- The candidate is told to stop. -/
  | shutDown
  /-- The work ended, by itself or because it was told to. -/
  | workEnded

/-- What a candidate does. -/
inductive ElectionAction where
  | publish (leadership : Leadership)
  | ask (call : LockCall)
  /-- The pending call is given up; whether it takes effect is open. -/
  | abandonCall
  | startWork
  /-- The work is told to stop. -/
  | cancelWork
  /-- The work is ended from outside. -/
  | dropWork
  | finish
  /-- The run ends without a result. -/
  | breakDown
  deriving DecidableEq

namespace Attempt

/-- The record of a candidate that gets the lock at a time. -/
def claim (candidate : Candidate) (began : Timestamp) : Record where
  holder := candidate.identity
  leaseSeconds := Int32.ofNat candidate.timing.lease.seconds
  acquired := some began
  renewed := some began
  transitions := 0

/-- The record that succeeds another one: the holder's own claim goes on, and any other one counts
as a change of hands. -/
def succeed (candidate : Candidate) (began : Timestamp) (current : Record) : Record :=
  if current.holder = candidate.identity then
    { claim candidate began with
        acquired := current.acquired
        transitions := current.transitions }
  else { claim candidate began with transitions := current.transitions + 1 }

/-- Whether one more change of hands could not be counted. -/
def overflows (candidate : Candidate) (current : Record) : Bool :=
  current.holder != candidate.identity && current.transitions == Int32.maxValue

/-- What is observed after a record was read: nothing new if neither it nor its version changed. -/
def observe (observed : Option Observation) (current : Versioned) (instant : Nat) : Observation :=
  match observed with
  | some old =>
    if old.record = current.record ∧ old.version = current.version then old
    else ⟨current.record, current.version, instant⟩
  | none => ⟨current.record, current.version, instant⟩

/-- How long a record is valid: as long as it says, or else as long as the candidate's own would
be. -/
def validity (candidate : Candidate) (record : Record) : Duration :=
  record.leaseDuration.getD candidate.timing.lease

/-- Whether an observed record is no longer valid. -/
def isExpired (candidate : Candidate) (observation : Observation) (instant : Nat) : Bool :=
  observation.since + (validity candidate observation.record).nanos ≤ instant

/-- Whether the lock is somebody else's. -/
def isTaken (candidate : Candidate) (observation : Observation) (instant : Nat) : Bool :=
  observation.record.isHeld && observation.record.holder != candidate.identity &&
    !isExpired candidate observation instant

/-- What comes after the answer to a call of an attempt. -/
inductive Next where
  /-- Another call. -/
  | ask (attempt : Attempt) (call : LockCall)
  /-- The attempt is over. -/
  | ended (success : Bool)
  /-- The number of changes of hands does not fit into a record. -/
  | overflow
  deriving DecidableEq

/-- An attempt that begins. -/
def begin (now : Moment) : Attempt := .reading now.clock

/-- An attempt after the answer to its call. -/
def answer
    (candidate : Candidate)
    (observed : Option Observation)
    (attempt : Attempt)
    (now : Moment)
    (reply : LockReply) : Option Observation × Next :=
  match attempt, reply with
  | .reading began, .got (.ok none) =>
    let desired := claim candidate began
    (observed, .ask (.creating desired) (.create desired))
  | .reading began, .got (.ok (some current)) =>
    let observation := observe observed current now.instant
    if isTaken candidate observation now.instant then (some observation, .ended false)
    else if overflows candidate current.record then (some observation, .overflow)
    else
      let desired := succeed candidate began current.record
      (some observation, .ask (.updating desired) (.update desired current.version))
  | .creating desired, .written (.ok ()) => (some ⟨desired, "", now.instant⟩, .ended true)
  | .updating desired, .written (.ok ()) => (some ⟨desired, "", now.instant⟩, .ended true)
  | _, _ => (observed, .ended false)

end Attempt

namespace Release

/-- The record of a lock that nobody holds any more. -/
def vacate (current : Record) (now : Timestamp) : Record where
  holder := ""
  leaseSeconds := 1
  acquired := some now
  renewed := some now
  transitions := current.transitions

end Release

namespace Candidacy

/-- A candidate that did not start yet. -/
def idle : Candidacy := ⟨.idle, .unheld, none, false⟩

/-- The time at which a candidate goes on by itself, if nothing else happens: when its timer rings. -/
def timer? (candidacy : Candidacy) : Option Nat :=
  match candidacy.phase with
  | .pausing time | .resting time | .renewing _ time | .retrying time _ | .stopping _ time =>
    some (Duration.ring time)
  | .idle | .acquiring _ | .releasing _ | .done => none

/-- The state of a candidate, and what it did to get there. -/
abbrev Step := Candidacy × List ElectionAction

/-- A step with one more action before it. -/
def after (actions : List ElectionAction) (step : Step) : Step :=
  (step.1, actions ++ step.2)

/-- The candidate's standing becomes known. -/
def publish (candidacy : Candidacy) (leadership : Leadership) (next : Candidacy → Step) : Step :=
  after [.publish leadership] (next { candidacy with leadership })

/-- The candidate goes to a phase. -/
def enter (phase : Phase) (candidacy : Candidacy) : Step :=
  ({ candidacy with phase }, [])

/-- The run is over. -/
def finish (candidacy : Candidacy) : Step :=
  after [.finish] (enter .done candidacy)

/-- The run is over without a result. Nothing is made known of it. -/
def breakDown (candidacy : Candidacy) : Step :=
  after [.breakDown] (enter .done candidacy)

/-- The candidate takes no part any more. -/
def withdraw (candidacy : Candidacy) : Step :=
  candidacy.publish .unheld finish

/-- The first call of an attempt to get the lock. -/
def tryAcquire (now : Moment) (candidacy : Candidacy) : Step :=
  after [.ask .get] (candidacy.enter (.acquiring (.begin now)))

/-- The candidate wants the lock. -/
def acquire (now : Moment) (candidacy : Candidacy) : Step :=
  candidacy.publish .acquiring fun candidacy =>
    if candidacy.shutDown then candidacy.withdraw else candidacy.tryAcquire now

/-- The first call of an attempt to renew the lock before a deadline. -/
def tryRenew (now : Moment) (deadline : Nat) (candidacy : Candidacy) : Step :=
  after [.ask .get] (candidacy.enter (.renewing (.begin now) deadline))

/-- The work is told to stop, and gets time for it. -/
def stop (candidate : Candidate) (ending : Ending) (now : Moment) (candidacy : Candidacy) : Step :=
  after [.cancelWork]
    (candidacy.enter (.stopping ending (now.instant + candidate.timing.grace.nanos)))

/-- The lock is held, and the next renewal is awaited. -/
def rest (candidate : Candidate) (now : Moment) (candidacy : Candidacy) : Step :=
  candidacy.enter (.resting (now.instant + candidate.timing.retry.nanos))

/-- The lock was got. A candidate that was told to stop meanwhile starts its work, which is told to
stop at once. -/
def lead (candidate : Candidate) (now : Moment) (candidacy : Candidacy) : Step :=
  candidacy.publish .held fun candidacy =>
    after [.startWork]
      (if candidacy.shutDown then candidacy.stop candidate .shutDown now
      else candidacy.rest candidate now)

/-- The lock was not got. -/
def pause (candidate : Candidate) (now : Moment) (candidacy : Candidacy) : Step :=
  if candidacy.shutDown then candidacy.withdraw
  else candidacy.enter (.pausing (now.instant + candidate.timing.retry.nanos))

/-- The lock was not renewed: there is time for another attempt, or the lock counts as lost. -/
def miss (candidate : Candidate) (deadline : Nat) (now : Moment) (candidacy : Candidacy) : Step :=
  let next := now.instant + candidate.timing.retry.nanos
  if deadline ≤ next then candidacy.stop candidate .lost now
  else candidacy.enter (.retrying next deadline)

/-- The lock is given up, if it still is the candidate's. -/
def release (candidacy : Candidacy) : Step :=
  after [.ask .get] (candidacy.enter (.releasing .reading))

/-- The lock was given up, as far as that was possible. -/
def retire (candidacy : Candidacy) : Step :=
  candidacy.publish .released finish

/-- The work stopped. -/
def stopped (ending : Ending) (now : Moment) (candidacy : Candidacy) : Step :=
  match ending with
  | .lost => candidacy.publish .released (acquire now)
  | .shutDown => candidacy.release

/-- The lock answers. -/
def onReply
    (candidate : Candidate)
    (now : Moment)
    (reply : LockReply)
    (candidacy : Candidacy) : Step :=
  match candidacy.phase, reply with
  | .acquiring attempt, reply =>
    let (observed, next) := attempt.answer candidate candidacy.observed now reply
    let candidacy := { candidacy with observed }
    match next with
    | .ask attempt call => after [.ask call] (candidacy.enter (.acquiring attempt))
    | .ended true => candidacy.lead candidate now
    | .ended false => candidacy.pause candidate now
    | .overflow => candidacy.breakDown
  | .renewing attempt deadline, reply =>
    let (observed, next) := attempt.answer candidate candidacy.observed now reply
    let candidacy := { candidacy with observed }
    match next with
    | .ask attempt call => after [.ask call] (candidacy.enter (.renewing attempt deadline))
    | .ended true => candidacy.rest candidate now
    | .ended false => candidacy.miss candidate deadline now
    | .overflow => after [.dropWork] candidacy.breakDown
  | .releasing .reading, .got (.ok (some current)) =>
    if current.record.holder = candidate.identity then
      let released := Release.vacate current.record now.clock
      after [.ask (.update released current.version)]
        (candidacy.enter (.releasing (.writing released)))
    else candidacy.retire
  | .releasing (.writing released), .written (.ok ()) =>
    retire { candidacy with observed := some ⟨released, "", now.instant⟩ }
  | .releasing _, _ => candidacy.retire
  | _, _ => (candidacy, [])

/-- The time came at which the candidate goes on by itself. -/
def onTimer (candidate : Candidate) (now : Moment) (candidacy : Candidacy) : Step :=
  match candidacy.phase with
  | .pausing _ => candidacy.tryAcquire now
  | .resting _ => candidacy.tryRenew now (now.instant + candidate.timing.renew.nanos)
  | .renewing _ deadline => after [.abandonCall] (candidacy.miss candidate deadline now)
  | .retrying _ deadline => candidacy.tryRenew now deadline
  | .stopping ending _ => after [.dropWork] (candidacy.stopped ending now)
  | _ => (candidacy, [])

/-- The candidate is told to stop. -/
def onShutDown (candidate : Candidate) (now : Moment) (candidacy : Candidacy) : Step :=
  let candidacy := { candidacy with shutDown := true }
  match candidacy.phase with
  | .pausing _ => candidacy.withdraw
  | .resting _ | .retrying _ _ => candidacy.stop candidate .shutDown now
  | .renewing _ _ => after [.abandonCall] (candidacy.stop candidate .shutDown now)
  | _ => (candidacy, [])

/-- The work ended. -/
def onWorkEnded (now : Moment) (candidacy : Candidacy) : Step :=
  match candidacy.phase with
  | .resting _ | .retrying _ _ => candidacy.release
  | .renewing _ _ => after [.abandonCall] candidacy.release
  | .stopping ending _ => candidacy.stopped ending now
  | _ => (candidacy, [])

/-- A candidate after an event. Time that passes matters only once a timer is due. -/
def step
    (candidate : Candidate)
    (now : Moment)
    (candidacy : Candidacy) : ElectionEvent → Step
  | .start =>
    match candidacy.phase with
    | .idle => candidacy.acquire now
    | _ => (candidacy, [])
  | .reply reply => candidacy.onReply candidate now reply
  | .tick =>
    match candidacy.timer? with
    | some time => if time ≤ now.instant then candidacy.onTimer candidate now else (candidacy, [])
    | none => (candidacy, [])
  | .shutDown => candidacy.onShutDown candidate now
  | .workEnded => candidacy.onWorkEnded now

end Candidacy

end VolumeAttacher
