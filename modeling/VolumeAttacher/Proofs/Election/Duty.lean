import Mathlib.Logic.Relation
import VolumeAttacher.Election.Entry
import VolumeAttacher.Election.Supervision
import VolumeAttacher.Proofs.Election.Moves

/-!
# Duties

A run under supervision and all that it deals with, as a transition system: the procedure, which may
end whenever it likes, the connection, which may be lost, the order to stop, and the lock, which
others write too. The lock answers every call, in its own time and perhaps with a fault; a call that
was given up may still be dealt with. A loss is seen before time passes, and time does not pass
beyond the moment at which the run goes on by itself.
-/

namespace VolumeAttacher

/-- An election that a procedure is to run behind. -/
structure Ballot where
  identity : String
  entry : Entry
  /-- The kind of the object that is the lock, and the namespace of the client, unless the lock is
  given as it is. -/
  object : Option (LockKind × String)

namespace Ballot

def candidate (ballot : Ballot) : Candidate := ⟨ballot.identity, ballot.entry.timing⟩

/-- Why the settings are refused. -/
def problem? (ballot : Ballot) : Option SettingsProblem :=
  let admission :=
    match ballot.object with
    | none => ballot.entry.check
    | some (kind, clientNamespace) =>
      (ballot.entry.lockObject kind clientNamespace).map fun _ => ()
  match admission with
  | .ok () => none
  | .error problem => some problem

end Ballot

/-- How a procedure is to be run: under the eyes of a watcher of the connection or not, and behind
an election or not. -/
structure Setup where
  isWatching : Bool
  ballot : Option Ballot

namespace Setup

def problem? (setup : Setup) : Option SettingsProblem := setup.ballot.bind Ballot.problem?

end Setup

/-- The lock is held in somebody's name. -/
def Versioned.isHeldBy (versioned : Versioned) (identity : String) : Bool :=
  versioned.record.isHeld && versioned.record.holder = identity

/-- The lock is not held in somebody's name. -/
def IsFreeOf (identity : String) (lock : Option Versioned) : Prop :=
  ∀ versioned ∈ lock, versioned.isHeldBy identity = false

/-- A reply that says that a call failed. -/
def LockReply.isFault : LockReply → Bool
  | .got (.error _) | .written (.error _) => true
  | .got (.ok _) | .written (.ok _) => false

/-- A reply that brings a record over which a candidate breaks down: it counts as many changes of hands
as there are numbers for. -/
def LockReply.isFull (candidate : Candidate) : LockReply → Bool
  | .got (.ok (some current)) => Attempt.overflows candidate current.record
  | _ => false

/-- What a lock may do with a call. The reply to a write that was accepted may be a fault. -/
inductive LockDeals (lock : Option Versioned) :
    LockCall → Option Versioned → LockReply → Prop
  | read : LockDeals lock .get lock (.got (.ok lock))
  | create (record : Record) (version : String) (result : Except Fault Unit)
      (absent : lock = none) :
    LockDeals lock (.create record) (some ⟨record, version⟩) (.written result)
  | update (current : Versioned) (record : Record) (version : String) (result : Except Fault Unit)
      (present : lock = some current) :
    LockDeals lock (.update record current.version) (some ⟨record, version⟩) (.written result)
  | refuse (call : LockCall) (fault : Fault) : LockDeals lock call lock (call.failure fault)

/-- An invocation of the procedure. Times are in nanoseconds. -/
structure Stint where
  began : Nat
  /-- When its token was cancelled. -/
  cancelled : Option Nat
  deriving DecidableEq

/-- A run under supervision, and what became of it so far. -/
structure Duty where
  supervision : Supervision
  now : Nat
  lock : Option Versioned
  /-- The call whose answer is awaited, with the answer once the lock dealt with it. -/
  pending : Option (LockCall × Option LockReply)
  /-- The calls that were given up and that the lock may yet deal with. -/
  abandoned : List LockCall
  /-- The invocation of the procedure that goes on. -/
  work : Option Stint
  /-- The invocations that were dropped, and when. -/
  drops : List (Stint × Nat)
  /-- When the first of a loss and an order to stop happened. -/
  fired : Option Nat
  /-- How the procedure was run when the run was told to stop for the first time. -/
  told : Option Engagement
  /-- The calls on the lock since then, the last first. -/
  calls : List LockCall
  /-- A call that was to release the lock failed. -/
  isRefused : Bool
  /-- A call that was given up changed the lock after the lock had dealt with a call that was to
  release it. -/
  isOvertaken : Bool
  returned : Option (Except Fault Unit)

namespace Duty

/-- A run before it starts. -/
def opening (setup : Setup) (lock : Option Versioned) : Duty where
  supervision := .idle setup.isWatching (setup.ballot.map Ballot.candidate)
  now := 0
  lock
  pending := none
  abandoned := []
  work := none
  drops := []
  fired := none
  told := none
  calls := []
  isRefused := false
  isOvertaken := false
  returned := none

/-- The pending call, if it is still on its way to the lock. -/
def unserved (duty : Duty) : List LockCall :=
  match duty.pending with
  | some (call, none) => [call]
  | _ => []

/-- What an action changes. -/
def act (duty : Duty) : ElectionAction → Duty
  | .publish _ => duty
  | .ask call =>
    { duty with
        pending := some (call, none)
        calls := if duty.told.isSome then call :: duty.calls else duty.calls }
  | .abandonCall => { duty with pending := none, abandoned := duty.unserved ++ duty.abandoned }
  | .startWork => { duty with work := some ⟨duty.now, none⟩ }
  | .cancelWork =>
    { duty with work := duty.work.map fun stint => { stint with cancelled := some duty.now } }
  | .dropWork =>
    { duty with work := none, drops := (duty.work.map (·, duty.now)).toList ++ duty.drops }
  | .finish => { duty with returned := some duty.supervision.result }
  | .breakDown => duty

/-- The run goes through a step. -/
def perform (duty : Duty) (step : Supervision × List ElectionAction) : Duty :=
  step.2.foldl act { duty with supervision := step.1 }

/-- The run after an event, and after all that follows from it. -/
def after (duty : Duty) (clock : Timestamp) (event : SupervisionEvent) : Duty :=
  duty.perform (duty.supervision.step ⟨duty.now, clock⟩ event)

/-- A loss or an order to stop happens. -/
def fire (duty : Duty) : Duty := { duty with fired := duty.fired.or (some duty.now) }

/-- The run is told to stop. -/
def tell (duty : Duty) : Duty :=
  { duty with told := duty.told.or (some duty.supervision.engagement) }

/-- What the candidate is doing, if there is an election. -/
def phase? (duty : Duty) : Option Phase :=
  match duty.supervision.engagement with
  | .alone _ => none
  | .elected _ candidacy => some candidacy.phase

/-- The run did not start. -/
def isIdle (duty : Duty) : Bool :=
  match duty.supervision.engagement with
  | .alone (.idle _) | .elected _ ⟨.idle, _, _, _⟩ => true
  | _ => false

/-- The run broke down: its candidate is at an end, and the run did not return. -/
def isBroken (duty : Duty) : Bool :=
  duty.phase? = some .done && duty.returned.isNone

/-- The answer that is on its way brings a record over which the candidate breaks down. -/
def ReadsFull (setup : Setup) (duty : Duty) : Prop :=
  ∃ ballot ∈ setup.ballot, ∃ call reply,
    duty.pending = some (call, some reply) ∧ reply.isFull ballot.candidate = true

/-- The lock is being released. -/
def isReleasing (duty : Duty) : Bool :=
  match duty.phase? with
  | some (.releasing _) => true
  | _ => false

/-- The lock has dealt with the last call of its release. -/
def isReleased (duty : Duty) : Bool :=
  match duty.phase?, duty.pending with
  | some (.releasing _), some (_, some _) => true
  | some .done, _ => true
  | _, _ => false

/-- The answer to the pending call arrives. -/
def hear (duty : Duty) (reply : LockReply) : Duty :=
  { duty with
      pending := none
      isRefused := duty.isRefused || (duty.isReleasing && reply.isFault) }

/-- The procedure is at an end. -/
def endWork (duty : Duty) : Duty := { duty with work := none }

/-- What the run waits for: that it is started, that the lock deals with a call and answers it, and
that the procedure ends. -/
inductive Reaction (setup : Setup) : Duty → Duty → Prop
  /-- The settings of the election are refused. -/
  | refuse (duty : Duty) (problem : SettingsProblem)
      (running : duty.returned = none)
      (refused : setup.problem? = some problem) :
    Reaction setup duty { duty with returned := some (.error (.configuration problem)) }
  | start (duty : Duty) (clock : Timestamp)
      (running : duty.returned = none)
      (admitted : setup.problem? = none)
      (idle : duty.isIdle = true) :
    Reaction setup duty (duty.after clock (.run .start))
  /-- The lock deals with the pending call. -/
  | serve (duty : Duty) (call : LockCall) (lock : Option Versioned) (reply : LockReply)
      (pending : duty.pending = some (call, none))
      (deals : LockDeals duty.lock call lock reply) :
    Reaction setup duty { duty with lock, pending := some (call, some reply) }
  /-- The answer to the pending call arrives. -/
  | answer (duty : Duty) (clock : Timestamp) (call : LockCall) (reply : LockReply)
      (running : duty.returned = none)
      (pending : duty.pending = some (call, some reply)) :
    Reaction setup duty
      ((duty.hear reply).after clock (.run (.reply reply)))
  /-- The procedure ends, by itself or because it was told to. -/
  | workEnds (duty : Duty) (clock : Timestamp)
      (running : duty.returned = none)
      (working : duty.work.isSome = true) :
    Reaction setup duty (duty.endWork.after clock (.run .workEnded))

/-- One step of a run and of all that it deals with. -/
inductive Step (setup : Setup) : Duty → Duty → Prop
  | reacts {duty next : Duty} (reaction : Reaction setup duty next) : Step setup duty next
  | tick (duty : Duty) (clock : Timestamp)
      (running : duty.returned = none) :
    Step setup duty (duty.after clock (.run .tick))
  | shutDown (duty : Duty) (clock : Timestamp)
      (running : duty.returned = none) :
    Step setup duty (duty.fire.tell.after clock .shutDown)
  | lose (duty : Duty) (clock : Timestamp)
      (running : duty.returned = none)
      (watching : setup.isWatching = true) :
    Step setup duty (duty.fire.after clock .lost)
  /-- The watcher sees a loss, and tells the run to stop. -/
  | seeLoss (duty : Duty) (clock : Timestamp)
      (running : duty.returned = none)
      (lost : duty.supervision.lost = true) :
    Step setup duty (duty.tell.after clock .lossSeen)
  /-- The lock deals with a call that was given up. -/
  | serveAbandoned (duty : Duty) (call : LockCall) (lock : Option Versioned) (reply : LockReply)
      (abandoned : call ∈ duty.abandoned)
      (deals : LockDeals duty.lock call lock reply) :
    Step setup duty
      { duty with
        lock
        isOvertaken := duty.isOvertaken || (duty.isReleased && decide (lock ≠ duty.lock)) }
  /-- Somebody else writes or deletes the record. -/
  | foreign (duty : Duty) (lock : Option Versioned)
      (others : ∀ ballot ∈ setup.ballot, IsFreeOf ballot.identity lock) :
    Step setup duty { duty with lock }
  /-- Time passes. -/
  | wait (duty : Duty) (moment : Nat)
      (later : duty.now ≤ moment)
      (timers : ∀ time, duty.supervision.engagement.timer? = some time → moment ≤ time)
      (seen : duty.returned = none → duty.supervision.lost = true → duty.told.isSome = true) :
    Step setup duty { duty with now := moment }

/-- What a run may come to, with a lock that may hold a record already. -/
def Reachable (setup : Setup) (duty : Duty) : Prop :=
  ∃ lock, Relation.ReflTransGen (Step setup) (opening setup lock) duty

end Duty

end VolumeAttacher
