import VolumeAttacher.Duration
import VolumeAttacher.Json

/-!
# Members with defaults

Reading a document whose members may all be missing: a member that is missing, null or of another
form than expected counts as its default.
-/

namespace VolumeAttacher
namespace Json

/-- The value of a member. -/
def valueAt (value : Json) (name : String) : Json := (value.member? name).getD .null

def itemsAt (value : Json) (name : String) : List Json :=
  ((value.member? name).bind array?).getD []

def membersAt (value : Json) (name : String) : List (String × Json) :=
  ((value.member? name).bind object?).getD []

def textAt? (value : Json) (name : String) : Option String := (value.member? name).bind text?

def textAtOr (value : Json) (name default : String) : String :=
  (value.textAt? name).getD default

def textAt (value : Json) (name : String) : String := value.textAtOr name ""

def naturalAt? (value : Json) (name : String) : Option Nat :=
  ((value.member? name).bind whole?).map Int.toNat

def naturalAtOr (value : Json) (name : String) (default : Nat) : Nat :=
  (value.naturalAt? name).getD default

def flagAtOr (value : Json) (name : String) (default : Bool) : Bool :=
  ((value.member? name).bind boolean?).getD default

def flagAt (value : Json) (name : String) : Bool := value.flagAtOr name false

def mapAt (value : Json) (name : String) : TextMap :=
  ((value.member? name).bind textMap?).getD []

def textsAt (value : Json) (name : String) : List String :=
  (value.itemsAt name).filterMap text?

/-- A duration as its seconds and the nanoseconds beyond them. -/
def duration? : Json → Option Duration
  | .array [.whole seconds, .whole nanos] =>
    some ⟨seconds.toNat * Duration.perSecond + nanos.toNat⟩
  | _ => none

def durationAtOr (value : Json) (name : String) (default : Duration) : Duration :=
  ((value.member? name).bind duration?).getD default

/-- A duration in milliseconds. -/
def millisAtOr (value : Json) (name : String) (default : Nat) : Duration :=
  .ofMillis (value.naturalAtOr name default)

end Json

/-- A duration as its seconds and the nanoseconds beyond them. -/
def Duration.toJson (duration : Duration) : Json :=
  .array [.whole duration.seconds, .whole duration.subsecond]

end VolumeAttacher
