import VolumeAttacher.Rehearsal.Agenda
import VolumeAttacher.WorkQueue.Waiting

/-!
# Rehearsing a work queue

A list of operations on a queue, in a time that passes only where the list says so. After each
operation every worker goes on until it waits or has left.
-/

namespace VolumeAttacher.Rehearsal

/-- One operation on a queue. -/
inductive QueueStep where
  | add (key : String)
  | addAfter (key : String) (millis : Nat)
  | addRateLimited (key : String)
  | done (key : String)
  | forget (key : String)
  | retries (key : String)
  | shutDown
  | advance (millis : Nat)
  /-- Take a key if there is one. -/
  | get
  /-- A worker waits for a key. -/
  | wait (worker : String)

/-- What an operation answers. -/
inductive QueueAnswer where
  | nothing
  | count (value : Nat)
  | item (key : String)
  | pending
  | closed

/-- What is seen after an operation: its answer, the number of waiting keys, and what workers left
with, an absent key meaning that the queue was shut down. -/
structure QueueView where
  answer : QueueAnswer
  size : Nat
  delivered : List (String × Option String)

/-- A queue, its workers by number, their names, and the delayed keys. Times are in milliseconds. -/
structure QueueScene where
  room : WaitRoom Nat String
  names : List (Nat × String)
  delayed : Agenda String
  now : Nat

namespace QueueScene

/-- Let the workers go on until all wait, for at most `fuel` steps. What they left with comes in
order. -/
def settle (fuel : Nat) (scene : QueueScene) : QueueScene × List (String × Option String) :=
  match fuel with
  | 0 => (scene, [])
  | fuel + 1 =>
    match scene.room.waiters.find? WaitRoom.canStep with
    | none => (scene, [])
    | some waiter =>
      let (room, handout) := scene.room.step waiter
      let (final, delivered) := settle fuel { scene with room }
      let name := (scene.names.lookup waiter.worker).getD ""
      match handout with
      | some (.key key) => (final, (name, some key) :: delivered)
      | some .closed => (final, (name, none) :: delivered)
      | _ => (final, delivered)

/-- More steps than the workers can take before all wait. -/
def enoughSteps (scene : QueueScene) : Nat := 8 * (scene.room.waiters.length + 1)

/-- The scene after everybody went on. -/
def rest (scene : QueueScene) : QueueScene × List (String × Option String) :=
  scene.settle scene.enoughSteps

/-- A key is added at once, or after some time. -/
def addLater (scene : QueueScene) (key : String) (millis : Nat) : QueueScene :=
  if millis = 0 then { scene with room := scene.room.add key }
  else { scene with delayed := scene.delayed.add (scene.now + millis) key }

/-- Add the delayed keys whose time has come. -/
def fireDue (fuel : Nat) (limit : Nat) (scene : QueueScene) :
    QueueScene × List (String × Option String) :=
  match fuel, scene.delayed.next? with
  | fuel + 1, some (time, key, delayed) =>
    if time ≤ limit then
      let scene := { scene with room := scene.room.add key, delayed, now := time }
      let (scene, first) := scene.rest
      let (scene, others) := fireDue fuel limit scene
      (scene, first ++ others)
    else (scene, [])
  | _, _ => (scene, [])

/-- One operation. -/
def perform (scene : QueueScene) (step : QueueStep) : QueueScene × QueueAnswer :=
  match step with
  | .add key => ({ scene with room := scene.room.add key }, .nothing)
  | .addAfter key millis => (scene.addLater key millis, .nothing)
  | .addRateLimited key =>
    let (queue, nanos) := scene.room.queue.fail key
    let scene := { scene with room := { scene.room with queue } }
    (scene.addLater key (Duration.mk nanos).millisUp, .nothing)
  | .done key => ({ scene with room := scene.room.done key }, .nothing)
  | .forget key =>
    ({ scene with room := { scene.room with queue := scene.room.queue.forget key } }, .nothing)
  | .retries key => (scene, .count (scene.room.queue.retries key))
  | .shutDown => ({ scene with room := scene.room.shutDown }, .nothing)
  | .advance _ => (scene, .nothing)
  | .get =>
    let (queue, handout) := scene.room.queue.get
    let scene := { scene with room := { scene.room with queue, kept := false } }
    match handout with
    | .key key => (scene, .item key)
    | .nothing => (scene, .pending)
    | .closed => (scene, .closed)
  | .wait worker =>
    let number := scene.names.length
    ({ scene with
        room := scene.room.enter number
        names := scene.names ++ [(number, worker)] }, .nothing)

/-- One operation, and what is seen after it. -/
def run (scene : QueueScene) (step : QueueStep) : QueueScene × QueueView :=
  let (scene, answer) := scene.perform step
  let (scene, delivered) := scene.rest
  let (scene, later) := match step with
    | .advance millis =>
      let limit := scene.now + millis
      let (scene, later) := scene.fireDue scene.delayed.entries.length limit
      ({ scene with now := limit }, later)
    | _ => (scene, [])
  (scene, ⟨answer, scene.room.queue.size, delivered ++ later⟩)

end QueueScene

/-- What is seen after each of a list of operations on an empty queue. -/
def queue (start maximum : Duration) (steps : List QueueStep) : List QueueView :=
  let scene : QueueScene := ⟨.ofQueue (.empty start maximum), [], .empty, 0⟩
  (steps.foldl (fun (scene, views) step =>
    let (scene, view) := scene.run step
    (scene, views ++ [view])) (scene, ([] : List QueueView))).2

end VolumeAttacher.Rehearsal
