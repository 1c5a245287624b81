import VolumeAttacher.Controller
import VolumeAttacher.Metrics
import VolumeAttacher.Reconciliation.Sending
import VolumeAttacher.Rehearsal.Agenda
import VolumeAttacher.Rehearsal.Cluster
import VolumeAttacher.Rehearsal.Handling

/-!
# Rehearsed controllers

A controller with a scripted driver and a scripted cluster, over a time that jumps to whatever is
next. Requests to the cluster take no time, and a worker goes on with the next name as long as
nothing keeps it waiting.
-/

namespace VolumeAttacher.Rehearsal

/-- What happens during a rehearsal from outside. -/
inductive ControllerCue where
  | stop
  /-- The term is stopped, and the next one begins as soon as it is over. -/
  | restart
  | change (change : CacheChange)
  /-- The stream of a feed ends. -/
  | close (feed : Feed)
  | nothing

/-- What is seen. -/
inductive ControllerTrace where
  | cluster (trace : ClusterTrace)
  | driver (call : HandlingCall)
  | restart

structure ControllerRow where
  time : Nat
  trace : ControllerTrace

/-- How a feed stands. -/
inductive FeedStage where
  | closed
  /-- It lists its objects after some failures. -/
  | listing (failures : Nat)
  /-- It opens its stream after some failures; these changes were missed so far. -/
  | opening (failures : Nat) (missed : List CacheChange)
  | watching

/-- What is to happen. -/
inductive ControllerOccurrence where
  /-- The feeds ask for their listings; the answers come after everything that is due already. -/
  | feed
  | list (feed : Feed)
  | watch (feed : Feed)
  | ready
  | work (subject : Subject)
  | due (term : Nat) (task : Task)
  | resync (term : Nat)
  | answer (task : Task) (reply : (request : Request) → request.Answer)

/-- The state of a rehearsal. -/
structure ControllerScene where
  controller : Controller
  driver : RehearsedDriver
  cluster : RehearsedCluster
  metrics : Metrics
  /-- The time of day that is written into statuses. -/
  clock : Timestamp
  resyncAfter : Duration
  /-- The objects that the server lists: those of the beginning, whatever changes later. -/
  listed : Caches
  feeds : List (Feed × FeedStage)
  agenda : Agenda ControllerOccurrence
  /-- What happens at once, before everything else. -/
  immediate : List ControllerOccurrence
  cues : List (Nat × ControllerCue)
  /-- The next term begins when the present one is over. -/
  isRestarting : Bool
  now : Nat
  /-- When the rehearsal is meant to end. -/
  stop : Nat
  /-- When it ended, after the last term was over. -/
  stopped : Option Nat
  /-- What was seen, the last first. -/
  rows : List ControllerRow

namespace ControllerScene

/-- Something is seen. -/
def see (scene : ControllerScene) (trace : ControllerTrace) : ControllerScene :=
  { scene with rows := ⟨scene.now, trace⟩ :: scene.rows }

def enter (scene : ControllerScene) (time : Nat) (occurrence : ControllerOccurrence) :
    ControllerScene :=
  { scene with agenda := scene.agenda.add time occurrence }

/-- A call of the driver is seen, if the driver saw it. -/
def seeDriver (scene : ControllerScene) (isSeen : Bool) (call : HandlingCall) :
    ControllerScene :=
  if isSeen then scene.see (.driver call) else scene

/-- A write is answered at once. -/
def write (scene : ControllerScene) (write : ObjectWrite) (request : Request) :
    ControllerScene × Nat × Except Fault Unit :=
  match request.sent? scene.clock with
  | none => (scene, 0, .ok ())
  | some sent =>
    let (cluster, result, trace) := scene.cluster.write write sent
    ({ scene with cluster }.see (.cluster trace), 0, result)

/-- A request of a job: what it leaves behind, how long the answer takes, and the answer. -/
def respond (scene : ControllerScene) :
    (request : Request) → ControllerScene × Nat × request.Answer
  | .addAttachmentFinalizer attachment finalizer nodeId =>
    scene.write
      ⟨"add_attachment_finalizer", attachment.name, .ofTexts [finalizer, nodeId],
        some attachment.metadata.resourceVersion⟩
      (.addAttachmentFinalizer attachment finalizer nodeId)
  | .removeAttachmentFinalizer attachment finalizer =>
    scene.write
      ⟨"remove_attachment_finalizer", attachment.name, .ofTexts [finalizer],
        some attachment.metadata.resourceVersion⟩
      (.removeAttachmentFinalizer attachment finalizer)
  | .patchStatus name patch =>
    scene.write ⟨"patch_attachment_status", name, patch.toJson scene.clock, none⟩
      (.patchStatus name patch)
  | .addVolumeFinalizer volume finalizer =>
    scene.write
      ⟨"add_volume_finalizer", volume.name, .ofTexts [finalizer],
        some volume.metadata.resourceVersion⟩
      (.addVolumeFinalizer volume finalizer)
  | .removeVolumeFinalizer volume finalizer =>
    scene.write
      ⟨"remove_volume_finalizer", volume.name, .ofTexts [finalizer],
        some volume.metadata.resourceVersion⟩
      (.removeVolumeFinalizer volume finalizer)
  | .getSecret nameSpace name =>
    let (cluster, result, trace) := scene.cluster.secret nameSpace name
    ({ scene with cluster }.see (.cluster trace), 0, result)
  | .publish request timeout =>
    let (reply, millis, isSeen, driver) := scene.driver.publish request timeout
    ({ scene with driver }.seeDriver isSeen (.publish request), millis, reply)
  | .unpublish request timeout =>
    let (reply, millis, isSeen, driver) := scene.driver.unpublish request timeout
    ({ scene with driver }.seeDriver isSeen (.unpublish request), millis, reply)
  | .record operation success =>
    ({ scene with metrics := scene.metrics.record operation.name success ⟨0⟩ }, 0, ())

/-- The number of the present term. -/
def termNumber (scene : ControllerScene) : Nat :=
  (scene.controller.term.map Term.number).getD 0

/-- The controller gets an event. What it delays is entered for later. -/
def advance (scene : ControllerScene) (event : ControllerEvent) : ControllerScene :=
  let (controller, delayed) := scene.controller.step event
  delayed.foldl (fun scene entry =>
    scene.enter (scene.now + (Duration.mk entry.nanos).millisUp)
      (.due scene.termNumber entry.task)) { scene with controller }

/-- The workers of a queue look for names. -/
def wake (scene : ControllerScene) (subject : Subject) : ControllerScene :=
  scene.enter scene.now (.work subject)

def wakeAll (scene : ControllerScene) : ControllerScene :=
  (scene.wake .attachment).wake .volume

/-- The pending request of a job, if it has one. -/
def pending? (scene : ControllerScene) (task : Task) : Option Request := do
  let term ← scene.controller.term
  match ← term.jobs.find? fun job => job.task = task with
  | ⟨_, .ask request _⟩ => some request
  | _ => none

/-- A job that has a pending request makes it; while it waits, other workers look for names. Otherwise
its worker goes on with the next name. -/
def runJob (scene : ControllerScene) (task : Task) : ControllerScene :=
  match scene.pending? task with
  | none => { scene with immediate := .work task.subject :: scene.immediate }
  | some request =>
    let (after, millis, _) := scene.respond request
    let answer : ControllerOccurrence :=
      .answer task fun request => (scene.respond request).2.2
    if millis = 0 then { after with immediate := answer :: after.immediate }
    else (after.enter (after.now + millis) answer).wake task.subject

/-- Whether a term hands out names to workers that are free, and the next name. -/
def next? (scene : ControllerScene) (subject : Subject) : Option String := do
  let term ← scene.controller.term
  if term.stage ≠ .working || scene.controller.workers ≤ term.busy subject then failure
  (term.queue subject).waiting.head?

/-- A worker that is free takes the next name. -/
def work (scene : ControllerScene) (subject : Subject) : ControllerScene :=
  match scene.next? subject with
  | none => scene
  | some name => (scene.advance (.take subject)).runJob ⟨subject, name⟩

/-- How a feed stands. -/
def stageOf (scene : ControllerScene) (feed : Feed) : FeedStage :=
  (scene.feeds.lookup feed).getD .closed

def setStage (scene : ControllerScene) (feed : Feed) (stage : FeedStage) : ControllerScene :=
  { scene with feeds := (feed, stage) :: scene.feeds.filter (·.1 ≠ feed) }

/-- All feeds. -/
def allFeeds : List Feed := [.attachments, .volumes, .nodes, .registrations]

/-- The path under which a feed lists its objects. -/
def pathOf : Feed → String
  | .attachments => Resource.attachment.collection none
  | .volumes => Resource.volume.collection none
  | .nodes => Resource.node.collection none
  | .registrations => Resource.csiNode.collection none

/-- The server's listing for a feed. -/
def listing (scene : ControllerScene) : Feed → CacheChange
  | .attachments => .attachments (.listed scene.listed.attachments)
  | .volumes => .volumes (.listed scene.listed.volumes)
  | .nodes => .nodes (.listed scene.listed.nodes)
  | .registrations => .registrations (.listed scene.listed.registrations)

/-- The time until a feed tries again after a number of failures. -/
def feedPause (failures : Nat) : Nat := min (800 * Nat.pow 2 failures) 30000

/-- Whether a script refuses a request of a feed. -/
def refuses (scene : ControllerScene) (feed : Feed) (isWatch : Bool) : Bool × ControllerScene :=
  match scene.cluster with
  | .recording _ => (false, scene)
  | .serving server =>
    let (refused, server) := server.refusal "GET" (pathOf feed) isWatch
    (refused.isSome, { scene with cluster := .serving server })

/-- A feed tells of a change. -/
def tell (scene : ControllerScene) (change : CacheChange) : ControllerScene :=
  ((scene.advance (.changed change)).wakeAll).enter scene.now .ready

/-- A feed lists its objects. -/
def list (scene : ControllerScene) (feed : Feed) : ControllerScene :=
  match scene.stageOf feed with
  | .listing failures =>
    match scene.refuses feed false with
    | (true, scene) =>
      (scene.setStage feed (.listing (failures + 1))).enter (scene.now + feedPause failures)
        (.list feed)
    | (false, scene) =>
      ((scene.setStage feed (.opening 0 [])).tell (scene.listing feed)).enter scene.now
        (.watch feed)
  | _ => scene

/-- A feed opens its stream, and is told what it missed. -/
def openStream (scene : ControllerScene) (feed : Feed) : ControllerScene :=
  match scene.stageOf feed with
  | .opening failures missed =>
    match scene.refuses feed true with
    | (true, scene) =>
      (scene.setStage feed (.opening (failures + 1) missed)).enter
        (scene.now + feedPause failures) (.watch feed)
    | (false, scene) => missed.foldl tell (scene.setStage feed .watching)
  | _ => scene

/-- A term begins, and the feeds with it. -/
def start (scene : ControllerScene) : ControllerScene :=
  let scene := (scene.advance .start).enter scene.now .ready
  if scene.controller.isFeeding then
    allFeeds.foldl (fun scene feed => scene.setStage feed (.listing 0))
      (scene.enter scene.now .feed)
  else scene

/-- The feeds end, and the term is told to stop. -/
def cancel (scene : ControllerScene) : ControllerScene :=
  { scene.advance .cancel with feeds := [] }

/-- The work begins if it can, and with it the time until the next resync. -/
def beginWork (scene : ControllerScene) : ControllerScene :=
  let wasWorking := scene.controller.term.any fun term => term.stage = .working
  let scene := scene.advance .ready
  let isWorking := scene.controller.term.any fun term => term.stage = .working
  if isWorking && !wasWorking then
    scene.wakeAll.enter (scene.now + scene.resyncAfter.millisUp) (.resync scene.termNumber)
  else scene

/-- An object changes, and a feed with an open stream tells of it. -/
def stream (scene : ControllerScene) (change : CacheChange) : ControllerScene :=
  match scene.stageOf change.feed with
  | .watching => scene.tell change
  | .opening failures missed =>
    scene.setStage change.feed (.opening failures (missed ++ [change]))
  | .closed | .listing _ => scene

/-- Something happens from outside. -/
def perform (scene : ControllerScene) : ControllerCue → ControllerScene
  | .stop => scene.cancel
  | .restart => { scene.cancel with isRestarting := true }
  | .change change =>
    if scene.controller.isFeeding then scene.stream change
    else scene.advance (.changed change)
  | .close feed =>
    match scene.stageOf feed with
    | .watching => (scene.setStage feed (.opening 0 [])).enter scene.now (.watch feed)
    | _ => scene
  | .nothing => scene

/-- What was entered happens. -/
def happen (scene : ControllerScene) : ControllerOccurrence → ControllerScene
  | .feed => allFeeds.foldl (fun scene feed => scene.enter scene.now (.list feed)) scene
  | .list feed => scene.list feed
  | .watch feed => scene.openStream feed
  | .ready => scene.beginWork
  | .work subject => scene.work subject
  | .due term task => (scene.advance (.due term task)).wake task.subject
  | .resync number =>
    if scene.controller.term.any fun term => term.number = number && term.stage = .working then
      (scene.advance .resync).wakeAll.enter (scene.now + scene.resyncAfter.millisUp)
        (.resync number)
    else scene
  | .answer task reply => (scene.advance (.answer task reply)).runJob task

/-- Whether the present term is told to stop and has no jobs any more, or the next one need not wait
for any. -/
def isTermOver (scene : ControllerScene) : Bool :=
  match scene.controller.term with
  | some term => term.stage = .stopping && term.jobs.isEmpty
  | none => scene.isRestarting

/-- A term that is over ends, and the next one begins if it was asked for. -/
def endTerm (scene : ControllerScene) : ControllerScene :=
  let scene := scene.advance .ended
  if scene.isRestarting then
    ({ scene with isRestarting := false }.see .restart).start
  else { scene with stopped := some (max scene.now scene.stop) }

/-- The next cue, if it comes before a time. None comes while a term is awaited. -/
def nextCue? (scene : ControllerScene) (time : Option Nat) :
    Option (Nat × ControllerCue × List (Nat × ControllerCue)) :=
  match scene.cues with
  | [] => none
  | (at_, cue) :: rest =>
    if scene.isRestarting || time.any (· < at_) then none else some (at_, cue, rest)

/-- The rehearsal goes on to its end, or as long as the fuel lasts. -/
def run : Nat → ControllerScene → ControllerScene
  | 0, scene => scene
  | fuel + 1, scene =>
    match scene.immediate with
    | occurrence :: rest => run fuel ({ scene with immediate := rest }.happen occurrence)
    | [] =>
      if scene.isTermOver then run fuel scene.endTerm
      else
        let entry := if scene.controller.term.isSome then scene.agenda.next? else none
        match scene.nextCue? (entry.map fun entry => max scene.now entry.1), entry with
        | some (time, cue, cues), _ =>
          run fuel ({ scene with cues, now := max scene.now time }.perform cue)
        | none, some (time, occurrence, agenda) =>
          run fuel ({ scene with agenda, now := max scene.now time }.happen occurrence)
        | none, none => scene

end ControllerScene

/-- What a rehearsal of a controller starts from. -/
structure ControllerPlan where
  attacher : Attacher
  retryStart : Duration
  retryMaximum : Duration
  workers : Nat
  resync : Duration
  driver : RehearsedDriver
  cluster : RehearsedCluster
  /-- The objects at the beginning. -/
  objects : Caches
  clock : Timestamp
  /-- The first term is told to stop before it begins. -/
  isCancelled : Bool
  cues : List (Nat × ControllerCue)
  stop : Nat

namespace ControllerPlan

/-- A server's objects are fed to the controller; otherwise its caches are filled from outside. -/
def isFeeding (plan : ControllerPlan) : Bool :=
  match plan.cluster with
  | .recording _ => false
  | .serving _ => true

/-- The objects, the last one of a name alone. -/
def distinct (objects : Caches) : Caches :=
  (((Caches.empty.apply (.attachments (.listed objects.attachments))).apply
    (.volumes (.listed objects.volumes))).apply (.nodes (.listed objects.nodes))).apply
    (.registrations (.listed objects.registrations))

/-- The scene when the first term begins. -/
def scene (plan : ControllerPlan) : ControllerScene :=
  let objects := distinct plan.objects
  let idle := Controller.idle plan.attacher plan.retryStart plan.retryMaximum plan.workers
    plan.isFeeding
  let scene : ControllerScene :=
    { controller := if plan.isFeeding then idle else { idle with caches := objects }
      driver := plan.driver
      cluster := plan.cluster
      metrics := .empty
      clock := plan.clock
      resyncAfter := plan.resync
      listed := objects
      feeds := []
      agenda := .empty
      immediate := []
      cues := plan.cues ++ [(plan.stop, .stop)]
      isRestarting := false
      now := 0
      stop := plan.stop
      stopped := none
      rows := [] }
  if plan.isCancelled then scene.start.cancel else scene.start

/-- More steps than a rehearsal takes: within a millisecond each name is taken a few times, and each
time takes a few steps. -/
def enoughSteps (plan : ControllerPlan) : Nat :=
  let names := plan.objects.attachments.length + plan.objects.volumes.length + plan.cues.length
  128 * (names + 8) * (plan.stop + plan.cues.length + 8)

end ControllerPlan

/-- A whole rehearsal. -/
def control (plan : ControllerPlan) : ControllerScene :=
  plan.scene.run plan.enoughSteps

end VolumeAttacher.Rehearsal
