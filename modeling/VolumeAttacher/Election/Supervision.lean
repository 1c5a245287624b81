import VolumeAttacher.Election.Candidacy

/-!
# Supervised work

The attacher's work runs alone or behind an election, until it is told to stop. It is also told to
stop if the connection to the driver is lost; then the run ends with a fault, because what the
driver said about itself held for this connection only.
-/

namespace VolumeAttacher

/-- Work that runs without an election. -/
inductive Unguarded where
  /-- It did not start; it may have been told to stop already. -/
  | idle (shutDown : Bool)
  | working
  /-- It was told to stop. -/
  | stopping
  | done
  deriving DecidableEq

/-- Work after an event, and what was done to get there. -/
def Unguarded.step : Unguarded → ElectionEvent → Unguarded × List ElectionAction
  | .idle false, .start => (.working, [.startWork])
  | .idle true, .start => (.stopping, [.startWork, .cancelWork])
  | .idle _, .shutDown => (.idle true, [])
  | .working, .shutDown => (.stopping, [.cancelWork])
  | .working, .workEnded => (.done, [.finish])
  | .stopping, .workEnded => (.done, [.finish])
  | unguarded, _ => (unguarded, [])

/-- How work is run. -/
inductive Engagement where
  | alone (unguarded : Unguarded)
  | elected (candidate : Candidate) (candidacy : Candidacy)

namespace Engagement

/-- The run after an event. -/
def step (now : Moment) (event : ElectionEvent) :
    Engagement → Engagement × List ElectionAction
  | .alone unguarded =>
    let (unguarded, actions) := unguarded.step event
    (.alone unguarded, actions)
  | .elected candidate candidacy =>
    let (candidacy, actions) := candidacy.step candidate now event
    (.elected candidate candidacy, actions)

/-- The time at which the run goes on by itself. -/
def timer? : Engagement → Option Nat
  | .alone _ => none
  | .elected _ candidacy => candidacy.timer?

end Engagement

/-- A run under supervision. -/
structure Supervision where
  engagement : Engagement
  /-- Whether the connection is watched. -/
  isWatching : Bool
  /-- The connection was lost. -/
  lost : Bool
  /-- The run was told to stop from outside. -/
  shutDown : Bool

/-- What happens to a run under supervision. -/
inductive SupervisionEvent where
  | run (event : ElectionEvent)
  | shutDown
  /-- The connection is lost. -/
  | lost
  /-- The watcher of the connection sees that it was lost. -/
  | lossSeen

namespace Supervision

/-- A run that did not start. -/
def idle (isWatching : Bool) (candidate : Option Candidate) : Supervision where
  engagement := match candidate with
    | some candidate => .elected candidate .idle
    | none => .alone (.idle false)
  isWatching
  lost := false
  shutDown := false

/-- The run gets an event. -/
def advance (now : Moment) (event : ElectionEvent) (supervision : Supervision) :
    Supervision × List ElectionAction :=
  let (engagement, actions) := supervision.engagement.step now event
  ({ supervision with engagement }, actions)

/-- A run after an event. A loss stops the run once the watcher has seen it. -/
def step (now : Moment) (supervision : Supervision) :
    SupervisionEvent → Supervision × List ElectionAction
  | .run event => supervision.advance now event
  | .shutDown => { supervision with shutDown := true }.advance now .shutDown
  | .lost => ({ supervision with lost := supervision.isWatching }, [])
  | .lossSeen => if supervision.lost then supervision.advance now .shutDown else (supervision, [])

/-- How a run ends that its election did not refuse. -/
def result (supervision : Supervision) : Except Fault Unit :=
  if supervision.lost && !supervision.shutDown then
    .error (.connection "CSI driver" "connection lost")
  else .ok ()

end Supervision

end VolumeAttacher
