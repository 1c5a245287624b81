import VolumeAttacher.Duration
import VolumeAttacher.Json.Reader
import VolumeAttacher.Timestamp.Reader

/-!
# Election records

What a lock says: who holds it, since when, for how long, and how often it changed hands. A record
has two forms in JSON: the text of an annotation, which also may be an array of the members in
order, and the specification of a lease, whose times are cut to microseconds.
-/

namespace VolumeAttacher

/-- What a lock says. -/
structure Record where
  /-- Who holds the lock; empty if nobody does. -/
  holder : String
  /-- How long the record is valid without a renewal. -/
  leaseSeconds : Int32
  /-- When the holder got the lock. -/
  acquired : Option Timestamp
  /-- When the holder last renewed it. -/
  renewed : Option Timestamp
  /-- How often the lock changed hands. -/
  transitions : Int32
  deriving DecidableEq

namespace Record

/-- A record that says nothing. -/
def empty : Record := ⟨"", 0, none, none, 0⟩

instance : Inhabited Record := ⟨empty⟩

def isHeld (record : Record) : Bool := record.holder ≠ ""

/-- How long the record is valid, if it says so with a positive number. -/
def leaseDuration (record : Record) : Option Duration :=
  if 0 < record.leaseSeconds.toInt then some (.ofSeconds record.leaseSeconds.toInt.toNat) else none

/-- A record with its times cut to microseconds. -/
def toMicros (record : Record) : Record :=
  { record with
      acquired := record.acquired.map Timestamp.toMicros
      renewed := record.renewed.map Timestamp.toMicros }

/-- A number of 32 bits with a sign. -/
def int32? (value : Json) : Option Int32 :=
  value.int32?.map Int32.ofInt

/-- A time, or null for none. -/
def time? : Json → Option (Option Timestamp)
  | .null => some none
  | .text text => (Timestamp.ofText? text).map some
  | _ => none

/-- A time as JSON, null for none. -/
def timeJson (render : Timestamp → String) : Option Timestamp → Json
  | none => .null
  | some time => .text (render time)

/-- The names of the members of a record's JSON form, in order. -/
def memberNames : List String :=
  ["holderIdentity", "leaseDurationSeconds", "acquireTime", "renewTime", "leaderTransitions"]

/-- The JSON form of a record in an annotation. -/
def toJson (record : Record) : Json :=
  .object [
    ("holderIdentity", .text record.holder),
    ("leaseDurationSeconds", .whole record.leaseSeconds.toInt),
    ("acquireTime", timeJson Timestamp.render record.acquired),
    ("renewTime", timeJson Timestamp.render record.renewed),
    ("leaderTransitions", .whole record.transitions.toInt)]

/-- A value read if it is there, and a default if it is not. -/
def orDefault {α : Type} (value : α) (read : Json → Option α) : Option Json → Option α
  | none => some value
  | some found => read found

/-- A record of its members, each of which may be missing. -/
def ofMembers? (member : String → Option Json) : Option Record := do
  return {
    holder := ← orDefault "" Json.text? (member "holderIdentity")
    leaseSeconds := ← orDefault 0 int32? (member "leaseDurationSeconds")
    acquired := ← orDefault none time? (member "acquireTime")
    renewed := ← orDefault none time? (member "renewTime")
    transitions := ← orDefault 0 int32? (member "leaderTransitions") }

/-- Whether a member of the record's own names is there twice. -/
def hasRepetition (members : List (String × Json)) : Bool :=
  memberNames.any fun name => 1 < (members.map Prod.fst).count name

/-- A record in the form of an annotation. -/
def ofJson? : Json → Option Record
  | .object members =>
    if hasRepetition members then none else ofMembers? fun name => Json.lookup name members
  | .array items =>
    if memberNames.length < items.length then none
    else ofMembers? fun name => (memberNames.zip items).lookup name
  | _ => none

/-- The text of an annotation that holds a record. -/
def ofText? (text : String) : Option Record := do
  ofJson? (← Json.ofText? text)

/-- A member that is left out when it is null. -/
def presentMember (name : String) : Json → List (String × Json)
  | .null => []
  | value => [(name, value)]

/-- The specification of a lease that holds a record. -/
def toLeaseSpec (record : Record) : Json :=
  .object (
    presentMember "acquireTime" (timeJson Timestamp.renderMicros record.acquired) ++
    [("holderIdentity", .text record.holder),
     ("leaseDurationSeconds", .whole record.leaseSeconds.toInt),
     ("leaseTransitions", .whole record.transitions.toInt)] ++
    presentMember "renewTime" (timeJson Timestamp.renderMicros record.renewed))

/-- The record that the specification of a lease holds; what is absent counts as zero or empty. -/
def ofLeaseSpec? (spec : Json) : Option Record := do
  if !spec.isObject then failure
  let time (name : String) := do
    return (← spec.optional name time?).join
  return {
    holder := (← spec.optional "holderIdentity" Json.text?).getD ""
    leaseSeconds := (← spec.optional "leaseDurationSeconds" int32?).getD 0
    acquired := ← time "acquireTime"
    renewed := ← time "renewTime"
    transitions := (← spec.optional "leaseTransitions" int32?).getD 0 }

end Record

end VolumeAttacher
