import VolumeAttacher.Reconciliation.Attachment
import VolumeAttacher.Reconciliation.Feed
import VolumeAttacher.Reconciliation.Volume

/-!
# The controller

The controller brings attachments and volumes to their wanted state. Names of objects wait in two
queues, one for each kind; workers take them and reconcile the objects. A controller runs in terms:
each has queues of its own, while the caches last from one term to the next.

What a controller does follows from the events it is given, in whatever order: the caches change,
workers take names, the cluster and the driver answer. A controller that feeds its own caches starts
to work in a term once each feed has listed its objects, in this term or in an earlier one.
-/

namespace VolumeAttacher

/-- A reconciliation that a worker goes through. -/
structure Job where
  task : Task
  rest : Dialogue Request Request.Answer (Except Fault Unit)

/-- How far a term is. -/
inductive TermStage where
  /-- The caches are not ready. -/
  | waiting
  | working
  /-- No names are handed out any more, and the jobs come to an end. -/
  | stopping
  deriving DecidableEq

/-- A term of a controller. -/
structure Term where
  /-- How many terms there were before. -/
  number : Nat
  stage : TermStage
  attachments : WorkQueue String
  volumes : WorkQueue String
  jobs : List Job

/-- A name that is to be put into its queue after a time in nanoseconds. -/
structure Delayed where
  task : Task
  nanos : Nat
  deriving DecidableEq

/-- A controller. -/
structure Controller where
  attacher : Attacher
  retryStart : Duration
  retryMaximum : Duration
  /-- How many workers each queue has. -/
  workers : Nat
  /-- Whether the caches are fed by the controller itself. -/
  isFeeding : Bool
  caches : Caches
  /-- The feeds that have listed their objects. -/
  listed : List Feed
  /-- How many terms there were, with the present one. -/
  terms : Nat
  term : Option Term

/-- What happens to a controller. -/
inductive ControllerEvent where
  /-- A term begins. -/
  | start
  /-- The caches change. -/
  | changed (change : CacheChange)
  /-- The controller looks whether its caches are ready. -/
  | ready
  /-- Everything is looked at again. -/
  | resync
  /-- A name that was delayed in a term comes to its queue. -/
  | due (term : Nat) (task : Task)
  /-- A worker takes the next name. -/
  | take (subject : Subject)
  /-- The request of a job is answered. -/
  | answer (task : Task) (reply : (request : Request) → request.Answer)
  /-- The term is told to stop. -/
  | cancel
  /-- The term is over. -/
  | ended

namespace Term

/-- The queue of a kind of names. -/
def queue (term : Term) : Subject → WorkQueue String
  | .attachment => term.attachments
  | .volume => term.volumes

/-- The term with another queue for a kind of names. -/
def withQueue (term : Term) (subject : Subject) (queue : WorkQueue String) : Term :=
  match subject with
  | .attachment => { term with attachments := queue }
  | .volume => { term with volumes := queue }

/-- A name comes to its queue. -/
def add (term : Term) (task : Task) : Term :=
  term.withQueue task.subject ((term.queue task.subject).add task.name).1

def addAll (term : Term) (tasks : List Task) : Term := tasks.foldl add term

/-- How many workers are busy with a kind of names. -/
def busy (term : Term) (subject : Subject) : Nat :=
  (term.jobs.filter fun job => job.task.subject = subject).length

/-- A job whose reconciliation has a result is over: its name may be put back after a time. -/
def settle (term : Term) (task : Task) (result : Except Fault Unit) : Term × List Delayed :=
  let (queue, delay) := Routing.settle (term.queue task.subject) task.name result
  let queue := (queue.done task.name).1
  let jobs := term.jobs.filter fun job => job.task ≠ task
  ({ term with jobs }.withQueue task.subject queue,
    (delay.map fun nanos => ⟨task, nanos⟩).toList)

/-- A job goes on, or is over. -/
def proceed (term : Term) (job : Job) : Term × List Delayed :=
  match job.rest with
  | .done result => term.settle job.task result
  | .ask _ _ =>
    let others := term.jobs.filter fun other => other.task ≠ job.task
    ({ term with jobs := job :: others }, [])

end Term

/-- The reconciliation of a name. -/
def Reconciliation.ofTask (attacher : Attacher) (caches : Caches) (task : Task) :
    Reconciliation Unit :=
  match task.subject with
  | .attachment => Reconciliation.attachment attacher caches task.name
  | .volume => Reconciliation.volume attacher caches task.name

namespace Controller

/-- A controller before its first term. -/
def idle (attacher : Attacher) (retryStart retryMaximum : Duration) (workers : Nat)
    (isFeeding : Bool) : Controller where
  attacher
  retryStart
  retryMaximum
  workers
  isFeeding
  caches := .empty
  listed := []
  terms := 0
  term := none

/-- Whether the work of a term may begin. -/
def isReady (controller : Controller) : Bool :=
  !controller.isFeeding ||
    [Feed.attachments, .volumes, .nodes, .registrations].all fun feed =>
      feed ∈ controller.listed

/-- A term that begins. -/
def freshTerm (controller : Controller) : Term where
  number := controller.terms
  stage := .waiting
  attachments := .empty controller.retryStart controller.retryMaximum
  volumes := .empty controller.retryStart controller.retryMaximum
  jobs := []

/-- The names of everything in the caches come to their queues. -/
def queueCaches (controller : Controller) (term : Term) : Term :=
  term.addAll (Routing.ofCaches controller.attacher controller.caches)

/-- The work of a term begins if the caches are ready. -/
def begin (controller : Controller) (term : Term) : Term :=
  match term.stage with
  | .waiting =>
    if controller.isReady then { controller.queueCaches term with stage := .working } else term
  | .working | .stopping => term

/-- The caches change, and what changed is queued if the controller feeds them itself. -/
def change (controller : Controller) (change : CacheChange) : Controller :=
  let changed := { controller with
    caches := controller.caches.apply change
    listed :=
      if change.isListing then change.feed :: controller.listed.filter (· ≠ change.feed)
      else controller.listed }
  if controller.isFeeding then
    { changed with
        term := controller.term.map fun term => term.addAll (change.tasks controller.attacher) }
  else changed

/-- A worker takes the next name, if there is a worker and a name. -/
def take (controller : Controller) (term : Term) (subject : Subject) : Term × List Delayed :=
  match term.stage, (term.queue subject).get with
  | .working, (queue, .key name) =>
    if controller.workers ≤ term.busy subject then (term, [])
    else
      let task : Task := ⟨subject, name⟩
      let rest := (Reconciliation.ofTask controller.attacher controller.caches task).run
      (term.withQueue subject queue).proceed ⟨task, rest⟩
  | _, _ => (term, [])

/-- The request of a job is answered. -/
def answer (term : Term) (task : Task) (reply : (request : Request) → request.Answer) :
    Term × List Delayed :=
  match term.jobs.find? fun job => job.task = task with
  | some ⟨_, .ask request resume⟩ => term.proceed ⟨task, resume (reply request)⟩
  | _ => (term, [])

/-- A change of the present term, if there is one. -/
def inTerm (controller : Controller) (change : Term → Term × List Delayed) :
    Controller × List Delayed :=
  match controller.term with
  | none => (controller, [])
  | some term =>
    let (term, delayed) := change term
    ({ controller with term := some term }, delayed)

/-- A controller after an event, and the names to be put into their queues later. -/
def step (controller : Controller) : ControllerEvent → Controller × List Delayed
  | .start =>
    match controller.term with
    | some _ => (controller, [])
    | none =>
      ({ controller with
          term := some controller.freshTerm
          terms := controller.terms + 1 }, [])
  | .changed change => (controller.change change, [])
  | .ready => controller.inTerm fun term => (controller.begin term, [])
  | .resync => controller.inTerm fun term =>
    match term.stage with
    | .working => (controller.queueCaches term, [])
    | .waiting | .stopping => (term, [])
  | .due number task => controller.inTerm fun term =>
    if term.number = number then (term.add task, []) else (term, [])
  | .take subject => controller.inTerm fun term => controller.take term subject
  | .answer task reply => controller.inTerm fun term => answer term task reply
  | .cancel => controller.inTerm fun term =>
    ({ term with
        stage := .stopping
        attachments := term.attachments.shutDown
        volumes := term.volumes.shutDown }, [])
  | .ended =>
    match controller.term with
    | some ⟨_, .stopping, _, _, []⟩ => ({ controller with term := none }, [])
    | _ => (controller, [])

end Controller

end VolumeAttacher
