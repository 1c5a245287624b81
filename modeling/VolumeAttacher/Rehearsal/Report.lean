import VolumeAttacher.Driver.Form
import VolumeAttacher.Rehearsal.Discovering
import VolumeAttacher.Rehearsal.Handling
import VolumeAttacher.Rehearsal.LockStore
import VolumeAttacher.Rehearsal.Queue

/-!
# Reports of rehearsals

What was seen in a rehearsal, as documents.
-/

namespace VolumeAttacher.Rehearsal

/-- Rows in the order of their times, and of their subjects within a time; otherwise they keep their
order. -/
def sortRows {Row : Type} (time : Row → Nat) (subject : Row → String) (rows : List Row) :
    List Row :=
  rows.mergeSort fun left right =>
    time left < time right || time left = time right && !(subject right < subject left)

/-- A value, or null. -/
def orNull {α : Type} (encode : α → Json) : Option α → Json
  | some value => encode value
  | none => .null

def holdingJson : Holding → Json :=
  orNull fun (holder, version) => .array [holder, .whole version]

def Freshness.toJson : Freshness → Json
  | .absent => .null
  | .kept => .text "kept"
  | .new => .text "new"

def Writing.toJson (writing : Writing) : Json :=
  .object [("holder", .text writing.record.holder),
    ("lease", .whole writing.record.leaseSeconds.toInt),
    ("transitions", .whole writing.record.transitions.toInt),
    ("acquire", writing.acquired.toJson), ("renew", writing.renewed.toJson)]

def WriteOutcome.name : WriteOutcome → String
  | .done => "ok"
  | .conflict => "conflict"
  | .missing => "missing"

/-- What is seen of a call, after its name and the candidate's standing. -/
def CallTrace.details (leadership : Json) : CallTrace → List Json
  | .read found => [.text "get", leadership, holdingJson found]
  | .wrote call writing outcome =>
    [.text call, leadership, writing.toJson, .text outcome.name]
  | .failed call => [.text call, leadership, .text "error"]
  | .fetched status path found =>
    [.text "GET", leadership, .whole status, .text path, holdingJson found]
  | .sent method status writing =>
    [.text method.name, leadership, .whole status, writing.toJson]

def QueueView.toJson (view : QueueView) : Json :=
  let answer := match view.answer with
    | .nothing => .null
    | .count value => .whole value
    | .item key => .object [("item", .text key)]
    | .pending => .text "pending"
    | .closed => .text "closed"
  .object [("r", answer), ("len", .whole view.size), ("empty", .boolean (view.size == 0)),
    ("delivered", .array (view.delivered.map fun (worker, key) =>
      .array [.text worker, orNull .text key]))]

def QueueStep.ofJson : Json → QueueStep
  | .array [.text "add", .text key] => .add key
  | .array [.text "add_after", .text key, .whole millis] => .addAfter key millis.toNat
  | .array [.text "add_rate_limited", .text key] => .addRateLimited key
  | .array [.text "done", .text key] => .done key
  | .array [.text "forget", .text key] => .forget key
  | .array [.text "retries", .text key] => .retries key
  | .array [.text "shut_down"] => .shutDown
  | .array [.text "advance", .whole millis] => .advance millis.toNat
  | .array [.text "wait", .text worker] => .wait worker
  | _ => .get

/-- What a call is about. -/
def HandlingCall.subject : HandlingCall → String
  | .publish request => "volume " ++ request.volumeId
  | .unpublish request => "volume " ++ request.volumeId

/-- What is seen of a call after its subject. -/
def HandlingCall.details : HandlingCall → List Json
  | .publish request => [.text "publish", request.toJson]
  | .unpublish request => [.text "unpublish", request.toJson]

def queryLabel : DriverQuery → String
  | .probe => "probe"
  | .name => "get_identity"
  | .services => "get_plugin_capabilities"
  | .operations => "get_controller_capabilities"

end VolumeAttacher.Rehearsal
