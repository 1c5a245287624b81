import VolumeAttacher.Election.Entry
import VolumeAttacher.Election.Supervision
import VolumeAttacher.Rehearsal.Agenda
import VolumeAttacher.Rehearsal.LockStore

/-!
# Rehearsed elections

Candidates that share a lock, over a time that jumps to whatever is next. Calls on the lock take no
time unless a fault makes them slow. What happens to a candidate goes through its supervision; this
module does what the candidate asks for and writes down what is seen of it.
-/

namespace VolumeAttacher.Rehearsal

/-- A disturbance of the calls of a candidate that start within a time. -/
structure Disturbance where
  operation : String
  start : Nat
  stop : Nat
  delay : Option Nat
  failure : Option CallFault

/-- A candidate as it takes part. -/
structure CandidatePlan where
  id : String
  start : Nat
  entry : Entry
  clientNamespace : String
  /-- The lock is needed for the work. -/
  isElected : Bool
  /-- The connection is watched. -/
  isWatching : Bool
  /-- The candidate's standing is measured. -/
  isMeasured : Bool
  /-- The candidate was told to stop before anything else. -/
  wasShutDown : Bool
  /-- The connection was lost before anything else. -/
  wasLost : Bool
  /-- After which time the work ends by itself. -/
  finishAfter : Option Nat
  /-- How long the work takes to stop. -/
  stopDelay : Nat
  disturbances : List Disturbance

/-- What happens during a rehearsal from outside. -/
inductive ElectionCue where
  | shutDown (id : String)
  | lose (id : String)
  | kill (id : String)
  | gauge (id : String)
  | delete
  | touch
  | force (record : Json)

/-- What is seen of the work. -/
inductive WorkTrace where
  | start | finished | cancelled | stopped | dropped

/-- What is seen of a candidate. -/
inductive ElectionTrace where
  | call (trace : CallTrace)
  | slow (operation : String)
  | work (trace : WorkTrace)
  | returned (result : Except Fault Unit)
  | gauge (isLeading : Bool)

/-- One thing seen, and the standing of the candidate at this time. -/
structure ElectionRow where
  time : Nat
  id : String
  leadership : Option Leadership
  trace : ElectionTrace

/-- A candidate during the rehearsal. -/
structure Player where
  plan : CandidatePlan
  supervision : Supervision
  leadership : Option Leadership
  isLeading : Bool
  pending : Option (LockCall × Option CallFault)
  isWorking : Bool
  started : Bool
  isOver : Bool

/-- What is to happen. -/
inductive Occurrence where
  | starts (id : String)
  | wakes (id : String)
  | answers (id : String)
  | finishes (id : String)
  | stops (id : String)
  | cue (cue : ElectionCue)

/-- The state of a rehearsal. -/
structure ElectionScene where
  players : List Player
  store : LockStore
  agenda : Agenda Occurrence
  /-- What happens at once, before everything else. -/
  immediate : List (String × SupervisionEvent)
  now : Nat
  /-- How many times the time of day was asked for. -/
  ticks : Nat
  /-- What was seen, the last first. -/
  rows : List ElectionRow

namespace Player

/-- The supervision of a candidate before it starts. -/
def supervisionOf (plan : CandidatePlan) : Supervision :=
  let idle := Supervision.idle plan.isWatching
    (if plan.isElected then some ⟨plan.id, plan.entry.timing⟩ else none)
  let lost := if plan.wasLost then (idle.step default .lost).1 else idle
  if plan.wasShutDown then (lost.step default .shutDown).1 else lost

/-- A candidate before it starts. -/
def ofPlan (plan : CandidatePlan) : Player where
  plan
  supervision := supervisionOf plan
  leadership := if plan.isElected then some .unheld else none
  isLeading := false
  pending := none
  isWorking := false
  started := false
  isOver := false

end Player

/-- Whether something to happen is about a candidate, other than that it goes on by itself. -/
def Occurrence.isFor (id : String) : Occurrence → Bool
  | .answers other | .finishes other | .stops other => other = id
  | .starts _ | .wakes _ | .cue _ => false

/-- Whether a candidate goes on by itself. -/
def Occurrence.isWake (id : String) : Occurrence → Bool
  | .wakes other => other = id
  | _ => false

namespace ElectionScene

/-- The time of day, another one each time. -/
def moment (scene : ElectionScene) : Moment :=
  ⟨scene.now * Duration.perMilli, ⟨2000000000 + scene.ticks, 0⟩⟩

def player? (scene : ElectionScene) (id : String) : Option Player :=
  scene.players.find? fun player => player.plan.id = id

def update (scene : ElectionScene) (player : Player) : ElectionScene :=
  { scene with
      players := scene.players.map fun other =>
        if other.plan.id = player.plan.id then player else other }

/-- Something is seen of a candidate. -/
def see (scene : ElectionScene) (player : Player) (trace : ElectionTrace) : ElectionScene :=
  { scene with rows := ⟨scene.now, player.plan.id, player.leadership, trace⟩ :: scene.rows }

def enter (scene : ElectionScene) (time : Nat) (occurrence : Occurrence) : ElectionScene :=
  { scene with agenda := scene.agenda.add time occurrence }

def cancel (scene : ElectionScene) (test : Occurrence → Bool) : ElectionScene :=
  { scene with agenda := scene.agenda.remove test }

/-- An event for a candidate that comes at once, after those already waiting. -/
def follow (scene : ElectionScene) (id : String) (event : SupervisionEvent) : ElectionScene :=
  { scene with immediate := scene.immediate ++ [(id, event)] }

/-- The lock of a candidate, for those that were let into the election. -/
def lockOf (scene : ElectionScene) (plan : CandidatePlan) : Except SettingsProblem LockObject :=
  match scene.store with
  | .memory _ => do
    plan.entry.check
    return ⟨.leases, "", plan.entry.lockName⟩
  | .server kind _ => plan.entry.lockObject kind plan.clientNamespace

/-- The pending call is carried out. -/
def answer (scene : ElectionScene) (player : Player) (call : LockCall)
    (failure : Option CallFault) : ElectionScene :=
  match scene.lockOf player.plan with
  | .error _ => scene
  | .ok lock =>
    let (store, reply, trace) := scene.store.perform lock failure call
    (({ scene with store }.see player (.call trace)).update { player with pending := none }).follow
      player.plan.id (.run (.reply reply))

/-- A call of a candidate begins. -/
def ask (scene : ElectionScene) (player : Player) (call : LockCall) : ElectionScene :=
  match scene.lockOf player.plan with
  | .error _ => scene
  | .ok lock =>
    let operation := scene.store.operation lock call
    let disturbance := player.plan.disturbances.find? fun disturbance =>
      disturbance.operation = operation && disturbance.start ≤ scene.now &&
        scene.now < disturbance.stop
    let failure := disturbance.bind Disturbance.failure
    match disturbance.bind Disturbance.delay with
    | none => scene.answer player call failure
    | some delay =>
      ((scene.see player (.slow operation)).update
        { player with pending := some (call, failure) }).enter (scene.now + delay)
        (.answers player.plan.id)

/-- The work of a candidate is over. -/
def endWork (scene : ElectionScene) (player : Player) (trace : WorkTrace) : ElectionScene :=
  ((scene.see player (.work trace)).update { player with isWorking := false }).cancel
    fun occurrence => match occurrence with
      | .finishes id | .stops id => id = player.plan.id
      | _ => false

/-- The work of a candidate is over, and the candidate goes on. -/
def workEnds (scene : ElectionScene) (player : Player) (trace : WorkTrace) : ElectionScene :=
  (scene.endWork player trace).follow player.plan.id (.run .workEnded)

/-- What a candidate asks for is done. -/
def act (id : String) (scene : ElectionScene) (action : ElectionAction) : ElectionScene :=
  match scene.player? id with
  | none => scene
  | some player =>
    match action with
    | .publish leadership =>
      scene.update { player with
        leadership := some leadership
        isLeading := if player.plan.isMeasured then leadership = .held else player.isLeading }
    | .ask call => scene.ask player call
    | .abandonCall =>
      (scene.update { player with pending := none }).cancel fun occurrence =>
        match occurrence with
        | .answers other => other = id
        | _ => false
    | .startWork =>
      let scene := (scene.see player (.work .start)).update { player with isWorking := true }
      match player.plan.finishAfter with
      | some delay => scene.enter (scene.now + delay) (.finishes id)
      | none => scene
    | .cancelWork =>
      if !player.isWorking then scene
      else
        let scene := (scene.see player (.work .cancelled)).cancel fun occurrence =>
          match occurrence with
          | .finishes other => other = id
          | _ => false
        if player.plan.stopDelay = 0 then scene.workEnds player .stopped
        else scene.enter (scene.now + player.plan.stopDelay) (.stops id)
    | .dropWork => scene.endWork player .dropped
    | .finish =>
      (scene.see player (.returned player.supervision.result)).update
        { player with isOver := true }
    | .breakDown => scene.update { player with isOver := true }

/-- A candidate that goes on at another time than before is entered for the new time, and so is one
that just went on by itself. -/
def reschedule (scene : ElectionScene) (id : String) (before after : Option Nat) :
    ElectionScene :=
  if before = after && scene.agenda.entries.any (·.2.isWake id) then scene
  else
    let scene := scene.cancel (·.isWake id)
    match after with
    | some time => scene.enter (Duration.mk time).millisUp (.wakes id)
    | none => scene

/-- An event reaches a candidate. What follows from it at once comes before what waited. -/
def deliver (scene : ElectionScene) (id : String) (event : SupervisionEvent) : ElectionScene :=
  match scene.player? id with
  | none => scene
  | some player =>
    if player.isOver then scene
    else
      let (supervision, actions) := player.supervision.step scene.moment event
      let waiting := scene.immediate
      let scene := { scene with ticks := scene.ticks + 1, immediate := [] }.update
        { player with supervision }
      let scene := scene.reschedule id player.supervision.engagement.timer?
        supervision.engagement.timer?
      let scene := actions.foldl (act id) scene
      { scene with immediate := scene.immediate ++ waiting }

/-- A candidate starts, unless its settings are refused. -/
def start (scene : ElectionScene) (player : Player) : ElectionScene :=
  match player.plan.isElected, scene.lockOf player.plan with
  | true, .error problem =>
    (scene.see player (.returned (.error (.configuration problem)))).update
      { player with started := true, isOver := true }
  | _, _ =>
    (((scene.update { player with started := true }).follow player.plan.id (.run .start)).follow
      player.plan.id .lossSeen)

/-- A candidate ends from one moment to the next. -/
def kill (scene : ElectionScene) (player : Player) : ElectionScene :=
  let scene := if player.isWorking then scene.see player (.work .dropped) else scene
  (scene.update { player with isOver := true, isWorking := false }).cancel fun occurrence =>
    occurrence.isFor player.plan.id || occurrence.isWake player.plan.id

/-- Something happens from outside. -/
def perform (scene : ElectionScene) (cue : ElectionCue) : ElectionScene :=
  let withPlayer (id : String) (go : Player → ElectionScene) : ElectionScene :=
    match scene.player? id with
    | some player => go player
    | none => scene
  match cue with
  | .shutDown id => scene.follow id .shutDown
  | .lose id => withPlayer id fun player =>
    let scene := scene.follow id .lost
    if player.started then scene.follow id .lossSeen else scene
  | .kill id => withPlayer id fun player => if player.isOver then scene else scene.kill player
  | .gauge id => withPlayer id fun player => scene.see player (.gauge player.isLeading)
  | .delete => { scene with store := scene.store.delete }
  | .touch => { scene with store := scene.store.touch }
  | .force record => { scene with store := scene.store.force record }

/-- What was entered happens. A candidate goes on by itself after everything else that happens to
it at the same time. -/
def happen (scene : ElectionScene) (occurrence : Occurrence) : ElectionScene :=
  let withPlayer (id : String) (go : Player → ElectionScene) : ElectionScene :=
    match scene.player? id with
    | some player => if player.isOver then scene else go player
    | none => scene
  match occurrence with
  | .starts id => withPlayer id scene.start
  | .wakes id => withPlayer id fun _ =>
    if scene.agenda.entries.any fun (time, other) => time = scene.now && other.isFor id then
      scene.enter scene.now (.wakes id)
    else scene.deliver id (.run .tick)
  | .answers id => withPlayer id fun player =>
    match player.pending with
    | some (call, failure) => scene.answer player call failure
    | none => scene
  | .finishes id => withPlayer id fun player => scene.workEnds player .finished
  | .stops id => withPlayer id fun player => scene.workEnds player .stopped
  | .cue cue => scene.perform cue

/-- The rehearsal goes on until a time, or as long as the fuel lasts. -/
def run (stop : Nat) : Nat → ElectionScene → ElectionScene
  | 0, scene => scene
  | fuel + 1, scene =>
    match scene.immediate with
    | (id, event) :: rest => run stop fuel ({ scene with immediate := rest }.deliver id event)
    | [] =>
      match scene.agenda.next? with
      | none => scene
      | some (time, occurrence, agenda) =>
        if stop < time then scene
        else run stop fuel ({ scene with agenda, now := max scene.now time }.happen occurrence)

/-- The scene before anything happens. -/
def ofPlans (plans : List CandidatePlan) (store : LockStore) (cues : List (Nat × ElectionCue)) :
    ElectionScene where
  players := plans.map .ofPlan
  store
  agenda :=
    let starts := plans.foldl (fun agenda plan => agenda.add plan.start (.starts plan.id)) .empty
    cues.foldl (fun agenda (time, cue) => agenda.add time (.cue cue)) starts
  immediate := []
  now := 0
  ticks := 0
  rows := []

/-- More steps than a rehearsal takes: a candidate goes on by itself at most once in a millisecond,
and each time takes a few steps. -/
def enoughSteps (plans : List CandidatePlan) (cues : List (Nat × ElectionCue)) (stop : Nat) :
    Nat :=
  16 * (stop + 1) * (plans.length + 1) + 16 * cues.length

end ElectionScene

/-- A rehearsed election up to a time. -/
def elect (plans : List CandidatePlan) (store : LockStore) (cues : List (Nat × ElectionCue))
    (stop : Nat) : ElectionScene :=
  (ElectionScene.ofPlans plans store cues).run stop (ElectionScene.enoughSteps plans cues stop)

end VolumeAttacher.Rehearsal
