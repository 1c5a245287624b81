import VolumeAttacher.WorkQueue

/-!
# Waiting for keys

Workers that find no key wait until they are woken. A worker registers before it looks at the queue,
so that a key added in between wakes it. One wake-up goes to the worker that has been registered the
longest, or is kept for the next one if nobody is registered. A worker that leaves without having
used its wake-up passes it on.
-/

namespace VolumeAttacher

/-- How a registered worker was woken. -/
inductive Signal where
  /-- It was not. -/
  | none
  /-- It took the wake-up that had been kept. -/
  | kept
  /-- It got a wake-up for itself. -/
  | own
  /-- All registered workers were woken. -/
  | all
  deriving DecidableEq

/-- What a worker that wants a key does next. -/
inductive WaitStage where
  | registering | looking | waiting
  deriving DecidableEq

/-- A worker that wants a key. -/
structure Waiter (Worker : Type) where
  worker : Worker
  stage : WaitStage
  signal : Signal
  deriving DecidableEq

/-- A queue with the workers that want keys from it. Those that have registered stand in the order
in which they did. -/
structure WaitRoom (Worker Key : Type) where
  queue : WorkQueue Key
  /-- A wake-up is kept for the next worker that registers. -/
  kept : Bool
  waiters : List (Waiter Worker)
  deriving DecidableEq

namespace WaitRoom

variable {Worker Key : Type} [DecidableEq Worker] [DecidableEq Key]

/-- A queue that nobody waits for. -/
def ofQueue (queue : WorkQueue Key) : WaitRoom Worker Key := ⟨queue, false, []⟩

/-- A worker that would take a wake-up. -/
def Waiter.isWakeable (waiter : Waiter Worker) : Bool :=
  waiter.stage != .registering && waiter.signal = .none

/-- The workers after one wake-up, unless nobody takes it. -/
def wakeFirst : List (Waiter Worker) → Option (List (Waiter Worker))
  | [] => none
  | waiter :: rest =>
    if Waiter.isWakeable waiter then some ({ waiter with signal := .own } :: rest)
    else (wakeFirst rest).map (waiter :: ·)

/-- One worker is woken. -/
def wakeOne (room : WaitRoom Worker Key) : WaitRoom Worker Key :=
  match wakeFirst room.waiters with
  | some waiters => { room with waiters }
  | none => { room with kept := true }

/-- All registered workers are woken. -/
def wakeAll (room : WaitRoom Worker Key) : WaitRoom Worker Key :=
  { room with waiters := room.waiters.map fun waiter =>
      if Waiter.isWakeable waiter then { waiter with signal := .all } else waiter }

/-- The room with another queue, one worker being woken if there is reason to. -/
def afterChange (room : WaitRoom Worker Key) (change : WorkQueue Key × Bool) :
    WaitRoom Worker Key :=
  let room := { room with queue := change.1 }
  if change.2 then room.wakeOne else room

/-- A key is to be worked on. -/
def add (room : WaitRoom Worker Key) (key : Key) : WaitRoom Worker Key :=
  room.afterChange (room.queue.add key)

/-- A worker is done with a key. -/
def done (room : WaitRoom Worker Key) (key : Key) : WaitRoom Worker Key :=
  room.afterChange (room.queue.done key)

/-- No more keys are taken or handed out. -/
def shutDown (room : WaitRoom Worker Key) : WaitRoom Worker Key :=
  wakeAll { room with queue := room.queue.shutDown }

/-- A worker wants a key. -/
def enter (room : WaitRoom Worker Key) (worker : Worker) : WaitRoom Worker Key :=
  { room with waiters := room.waiters ++ [⟨worker, .registering, .none⟩] }

/-- The room without a worker. -/
def without (room : WaitRoom Worker Key) (worker : Worker) : WaitRoom Worker Key :=
  { room with waiters := room.waiters.filter (·.worker ≠ worker) }

/-- A worker leaves; a wake-up that it got for itself and did not use goes to another one. -/
def leave (room : WaitRoom Worker Key) (waiter : Waiter Worker) : WaitRoom Worker Key :=
  let rest := room.without waiter.worker
  if waiter.signal = .own then rest.wakeOne else rest

/-- The room with a worker at the end of the line. -/
def toEnd (room : WaitRoom Worker Key) (waiter : Waiter Worker) : WaitRoom Worker Key :=
  let rest := room.without waiter.worker
  { rest with waiters := rest.waiters ++ [waiter] }

/-- The room with a worker changed at its place. -/
def update (room : WaitRoom Worker Key) (waiter : Waiter Worker) : WaitRoom Worker Key :=
  { room with waiters := room.waiters.map fun other =>
      if other.worker = waiter.worker then waiter else other }

/-- A worker that registers: it takes a kept wake-up, if there is one. -/
def register (room : WaitRoom Worker Key) (waiter : Waiter Worker) : WaitRoom Worker Key :=
  let signal := if room.kept then Signal.kept else Signal.none
  toEnd { room with kept := false } { waiter with stage := .looking, signal }

/-- A worker that looks at the queue: it leaves with what the queue hands out, or waits. -/
def look (room : WaitRoom Worker Key) (waiter : Waiter Worker) :
    WaitRoom Worker Key × Option (WorkQueue.Handout Key) :=
  let (queue, handout) := room.queue.get
  let room := { room with queue }
  match handout with
  | .nothing => (room.update { waiter with stage := .waiting }, none)
  | handout => (room.leave waiter, some handout)

/-- Whether a worker can go on. -/
def canStep (waiter : Waiter Worker) : Bool :=
  waiter.stage != .waiting || waiter.signal != .none

/-- The next step of a worker, and what it was handed if it left. -/
def step (room : WaitRoom Worker Key) (waiter : Waiter Worker) :
    WaitRoom Worker Key × Option (WorkQueue.Handout Key) :=
  match waiter.stage with
  | .registering => (room.register waiter, none)
  | .looking => room.look waiter
  | .waiting =>
    if waiter.signal = .none then (room, none)
    else (room.update { waiter with stage := .registering, signal := .none }, none)

end WaitRoom

end VolumeAttacher
