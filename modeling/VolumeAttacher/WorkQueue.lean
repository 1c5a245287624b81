import VolumeAttacher.Duration

/-!
# Work queues

A first-in, first-out queue of keys. A key that waits is not queued again, and a key that is added
while a worker has it is held back until the worker is done, so no key is with two workers. Keys
whose work failed are put back after an interval that doubles with each failure up to a maximum.
-/

namespace VolumeAttacher

/-- The failures of one key: how many, and the interval after the next one. -/
structure Backoff where
  count : Nat
  interval : Nat
  deriving DecidableEq

/-- A queue of keys. Times are in nanoseconds. -/
structure WorkQueue (Key : Type) where
  /-- The keys to hand out, in order. -/
  waiting : List Key
  /-- The keys added since they were last handed out. -/
  dirty : List Key
  /-- The keys that workers have. -/
  processing : List Key
  /-- No more keys are taken or handed out. -/
  closed : Bool
  /-- The failures of each key since it was last forgotten. -/
  failures : List (Key × Backoff)
  /-- The interval after a first failure. -/
  start : Nat
  /-- The longest interval. -/
  maximum : Nat
  deriving DecidableEq

namespace WorkQueue

variable {Key : Type} [DecidableEq Key]

/-- A queue without keys. -/
def empty (start maximum : Duration) : WorkQueue Key :=
  ⟨[], [], [], false, [], start.nanos, maximum.nanos⟩

/-- A key is to be worked on. The flag says whether a worker has to be woken. -/
def add (queue : WorkQueue Key) (key : Key) : WorkQueue Key × Bool :=
  if queue.closed || key ∈ queue.dirty then (queue, false)
  else if key ∈ queue.processing then ({ queue with dirty := key :: queue.dirty }, false)
  else
    ({ queue with dirty := key :: queue.dirty, waiting := queue.waiting ++ [key] }, true)

/-- What a worker that asks for a key is told. -/
inductive Handout (Key : Type) where
  | key (value : Key)
  | nothing
  | closed
  deriving DecidableEq

/-- The next key for a worker. -/
def get (queue : WorkQueue Key) : WorkQueue Key × Handout Key :=
  if queue.closed then (queue, .closed)
  else match queue.waiting with
    | [] => (queue, .nothing)
    | key :: rest =>
      ({ queue with
          waiting := rest
          dirty := queue.dirty.filter (· ≠ key)
          processing := key :: queue.processing.filter (· ≠ key) }, .key key)

/-- A worker is done with a key. The flag says whether a worker has to be woken, because the key was
added meanwhile. -/
def done (queue : WorkQueue Key) (key : Key) : WorkQueue Key × Bool :=
  let released := { queue with processing := queue.processing.filter (· ≠ key) }
  if key ∈ queue.dirty && !queue.closed then
    ({ released with waiting := queue.waiting ++ [key] }, true)
  else (released, false)

/-- No more keys are taken or handed out. -/
def shutDown (queue : WorkQueue Key) : WorkQueue Key :=
  { queue with closed := true }

/-- The failures of a key are forgotten. -/
def forget (queue : WorkQueue Key) (key : Key) : WorkQueue Key :=
  { queue with failures := queue.failures.filter (·.1 ≠ key) }

/-- How often a key failed since it was last forgotten. -/
def retries (queue : WorkQueue Key) (key : Key) : Nat :=
  match queue.failures.lookup key with
  | some backoff => backoff.count
  | none => 0

/-- The interval after an interval: twice as long, but at most the maximum. -/
def nextInterval (maximum interval : Nat) : Nat :=
  if maximum ≤ 2 * interval then maximum else 2 * interval

/-- The failures of a key, counting from the first interval if there are none. -/
def backoff (queue : WorkQueue Key) (key : Key) : Backoff :=
  (queue.failures.lookup key).getD ⟨0, queue.start⟩

/-- One more failure of a key, and the interval after which the key is to be added again. -/
def fail (queue : WorkQueue Key) (key : Key) : WorkQueue Key × Nat :=
  let backoff := queue.backoff key
  let next : Backoff := ⟨backoff.count + 1, nextInterval queue.maximum backoff.interval⟩
  ({ queue with failures := (key, next) :: queue.failures.filter (·.1 ≠ key) },
    backoff.interval)

/-- How many keys wait. -/
def size (queue : WorkQueue Key) : Nat := queue.waiting.length

end WorkQueue

end VolumeAttacher
