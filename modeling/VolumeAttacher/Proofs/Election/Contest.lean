import Mathlib.Logic.Function.Basic
import Mathlib.Logic.Relation
import VolumeAttacher.Election.Candidacy

/-!
# Contests for a lock

Any number of candidates with one lock, as a transition system. The lock keeps its contract and
nothing else: nobody creates over what exists, and nobody updates a version that is not the current
one. Calls travel for as long as they like, may fail whether or not the lock dealt with them, and
may be dealt with after their candidate gave them up. Time does not pass beyond the moment at which
a candidate goes on by itself, and work that is told to stop does so at once.
-/

namespace VolumeAttacher

/-- Candidates with different names, none of which is empty. -/
structure Electorate (ι : Type) where
  identity : ι → String
  timing : ι → Timing
  distinct : Function.Injective identity
  named : ∀ index, identity index ≠ ""

namespace Electorate

def candidate {ι : Type} (electorate : Electorate ι) (index : ι) : Candidate :=
  ⟨electorate.identity index, electorate.timing index⟩

/-- All candidates have the same settings. -/
def Shares {ι : Type} (electorate : Electorate ι) (timing : Timing) : Prop :=
  ∀ index, electorate.timing index = timing

end Electorate

/-- A record that the lock held, in a version, since a time. -/
structure Posting where
  record : Record
  version : String
  time : Nat
  deriving DecidableEq

def Posting.versioned (posting : Posting) : Versioned := ⟨posting.record, posting.version⟩

/-- A call on the lock, and what the lock answered when it dealt with it. -/
structure PendingCall where
  call : LockCall
  answer : Option (LockReply × Nat)

/-- The reply of a call that failed. -/
def LockCall.failure (fault : Fault) : LockCall → LockReply
  | .get => .got (.error fault)
  | .create _ | .update _ _ => .written (.error fault)

/-- What a lock may do with a call at a time. The first posting is the one that it holds. A version
is never used again, and the reply to a write that was accepted may be a fault. -/
inductive LockServes (time : Nat) :
    List Posting → LockCall → List Posting → LockReply → Prop
  | read (postings : List Posting) :
    LockServes time postings .get postings (.got (.ok (postings.head?.map Posting.versioned)))
  | create (record : Record) (version : String) (result : Except Fault Unit) :
    LockServes time [] (.create record) [⟨record, version, time⟩] (.written result)
  | update (current : Posting) (earlier : List Posting) (record : Record) (version : String)
      (result : Except Fault Unit)
      (fresh : version ∉ (current :: earlier).map Posting.version) :
    LockServes time (current :: earlier) (.update record current.version)
      (⟨record, version, time⟩ :: current :: earlier) (.written result)
  | refuse (postings : List Posting) (call : LockCall) (fault : Fault) :
    LockServes time postings call postings (call.failure fault)

/-- A candidate with its pending call and its work. -/
structure Seat where
  candidacy : Candidacy
  pending : Option PendingCall
  isWorking : Bool

namespace Seat

def vacant : Seat := ⟨.idle, none, false⟩

/-- The pending call, if it is still on its way to the lock. -/
def unserved (seat : Seat) : List LockCall :=
  match seat.pending with
  | some ⟨call, none⟩ => [call]
  | _ => []

/-- What an action of the candidate changes. -/
def act (seat : Seat) : ElectionAction → Seat
  | .ask call => { seat with pending := some ⟨call, none⟩ }
  | .abandonCall => { seat with pending := none }
  | .startWork => { seat with isWorking := true }
  | .cancelWork | .dropWork => { seat with isWorking := false }
  | .publish _ | .finish | .breakDown => seat

/-- The actions that follow from an event. -/
def actions (candidate : Candidate) (moment : Moment) (event : ElectionEvent) (seat : Seat) :
    List ElectionAction :=
  (seat.candidacy.step candidate moment event).2

/-- The seat after an event and all that follows from it. -/
def after (candidate : Candidate) (moment : Moment) (event : ElectionEvent) (seat : Seat) : Seat :=
  (seat.actions candidate moment event).foldl act
    { seat with candidacy := (seat.candidacy.step candidate moment event).1 }

/-- The calls that an event makes the candidate give up before the lock dealt with them. -/
def givenUp (candidate : Candidate) (moment : Moment) (event : ElectionEvent) (seat : Seat) :
    List LockCall :=
  if .abandonCall ∈ seat.actions candidate moment event then seat.unserved else []

/-- The candidate waits for its work to stop. -/
def isStopping (seat : Seat) : Bool :=
  match seat.candidacy.phase with
  | .stopping _ _ => true
  | _ => false

/-- The seat of a candidate that ended from one moment to the next. -/
def crashed (seat : Seat) : Seat :=
  ⟨{ seat.candidacy with phase := .done }, none, false⟩

end Seat

/-- The state of a contest. -/
structure Contest (ι : Type) where
  now : Nat
  /-- What the lock held, the present record first. -/
  postings : List Posting
  seats : ι → Seat
  /-- The calls that were given up and that the lock may yet deal with. -/
  abandoned : List (ι × LockCall)

namespace Contest

variable {ι : Type} [DecidableEq ι]

/-- A contest before any candidate started, for a lock that may hold a record already. -/
def initial (found : Option Versioned) : Contest ι where
  now := 0
  postings := (found.map fun found => ⟨found.record, found.version, 0⟩).toList
  seats := fun _ => .vacant
  abandoned := []

/-- The contest with another seat for a candidate. -/
def seated (contest : Contest ι) (index : ι) (seat : Seat) : Contest ι :=
  { contest with seats := Function.update contest.seats index seat }

/-- A candidate, whose seat was prepared for it, gets an event. -/
def deliver
    (electorate : Electorate ι)
    (contest : Contest ι)
    (index : ι)
    (clock : Timestamp)
    (event : ElectionEvent)
    (seat : Seat) : Contest ι :=
  let candidate := electorate.candidate index
  let moment : Moment := ⟨contest.now, clock⟩
  { contest.seated index (seat.after candidate moment event) with
      abandoned :=
        (seat.givenUp candidate moment event).map (index, ·) ++ contest.abandoned }

/-- How long answers may take: whether the time may pass up to a moment. -/
abbrev Patience (ι : Type) := Contest ι → Nat → Prop

/-- The answers to writes that were accepted arrive within a time. -/
def answersWithin (lag : Nat) : Patience ι := fun contest moment =>
  ∀ index call time,
    (contest.seats index).pending = some ⟨call, some (.written (.ok ()), time)⟩ →
      moment ≤ time + lag

/-- One step of a contest. -/
inductive Step (electorate : Electorate ι) (patience : Patience ι) :
    Contest ι → Contest ι → Prop
  | start (contest : Contest ι) (index : ι) (clock : Timestamp) :
    Step electorate patience contest
      (contest.deliver electorate index clock .start (contest.seats index))
  | tick (contest : Contest ι) (index : ι) (clock : Timestamp) :
    Step electorate patience contest
      (contest.deliver electorate index clock .tick (contest.seats index))
  | shutDown (contest : Contest ι) (index : ι) (clock : Timestamp) :
    Step electorate patience contest
      (contest.deliver electorate index clock .shutDown (contest.seats index))
  /-- Work ends by itself, or after it was told to. -/
  | workEnds (contest : Contest ι) (index : ι) (clock : Timestamp)
      (ends : (contest.seats index).isWorking ∨ (contest.seats index).isStopping) :
    Step electorate patience contest
      (contest.deliver electorate index clock .workEnded
        { contest.seats index with isWorking := false })
  /-- The lock deals with a pending call. -/
  | serve (contest : Contest ι) (index : ι) (call : LockCall) (postings : List Posting)
      (reply : LockReply)
      (pending : (contest.seats index).pending = some ⟨call, none⟩)
      (serves : LockServes contest.now contest.postings call postings reply) :
    Step electorate patience contest
      { contest.seated index
          { contest.seats index with pending := some ⟨call, some (reply, contest.now)⟩ } with
        postings }
  /-- The answer to a call arrives. -/
  | answer (contest : Contest ι) (index : ι) (clock : Timestamp) (call : LockCall)
      (reply : LockReply) (time : Nat)
      (pending : (contest.seats index).pending = some ⟨call, some (reply, time)⟩) :
    Step electorate patience contest
      (contest.deliver electorate index clock (.reply reply)
        { contest.seats index with pending := none })
  /-- A call fails on its way. -/
  | fail (contest : Contest ι) (index : ι) (clock : Timestamp) (call : LockCall) (fault : Fault)
      (pending : (contest.seats index).pending = some ⟨call, none⟩) :
    Step electorate patience contest
      { contest.deliver electorate index clock (.reply (call.failure fault))
          { contest.seats index with pending := none } with
        abandoned := (index, call) :: contest.abandoned }
  /-- The lock deals with a call that was given up; nobody waits for the reply. -/
  | serveAbandoned (contest : Contest ι) (index : ι) (call : LockCall)
      (postings : List Posting) (reply : LockReply)
      (abandoned : (index, call) ∈ contest.abandoned)
      (serves : LockServes contest.now contest.postings call postings reply) :
    Step electorate patience contest { contest with postings }
  | crash (contest : Contest ι) (index : ι) :
    Step electorate patience contest
      { contest.seated index (contest.seats index).crashed with
        abandoned := (contest.seats index).unserved.map (index, ·) ++ contest.abandoned }
  /-- Time passes. -/
  | wait (contest : Contest ι) (moment : Nat)
      (later : contest.now ≤ moment)
      (timers : ∀ index time, (contest.seats index).candidacy.timer? = some time →
        moment ≤ time)
      (prompt : ∀ index, (contest.seats index).isStopping = false)
      (patient : patience contest moment) :
    Step electorate patience contest { contest with now := moment }

/-- The contests that come about from one in which nobody started. -/
def Reachable (electorate : Electorate ι) (patience : Patience ι) (contest : Contest ι) : Prop :=
  ∃ found, Relation.ReflTransGen (Step electorate patience) (initial found) contest

/-- No two candidates work. -/
def Exclusive (contest : Contest ι) : Prop :=
  ∀ first second, (contest.seats first).isWorking → (contest.seats second).isWorking →
    first = second

end Contest

end VolumeAttacher
