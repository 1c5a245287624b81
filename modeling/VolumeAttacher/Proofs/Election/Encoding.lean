import VolumeAttacher.Election.Record
import VolumeAttacher.Json.Printer
import VolumeAttacher.Proofs.Json.Members
import VolumeAttacher.Proofs.Json.RoundTrip
import VolumeAttacher.Proofs.Timestamp.RoundTrip

/-!
# Reading written records

A record is read back from the text of an annotation, and from the specification of a lease with its
times cut to microseconds.
-/

namespace VolumeAttacher
namespace Record

/-- A record whose times RFC 3339 can express. -/
structure IsExpressible (record : Record) : Prop where
  acquired : ∀ time ∈ record.acquired, time.IsExpressible
  renewed : ∀ time ∈ record.renewed, time.IsExpressible

theorem int32?_toInt (number : Int32) : int32? (.whole number.toInt) = some number := by
  have lower := number.le_toInt
  have upper := number.toInt_lt
  have fits : (.whole number.toInt : Json).int32? = some number.toInt := by
    unfold Json.int32?
    dsimp only
    rw [if_pos (by simp; omega)]
  rw [int32?, fits, Option.map_some, Int32.ofInt_toInt]

/-- A time is read from its text, and null is no time. -/
theorem time?_timeJson
    {render : Timestamp → String}
    {cut : Timestamp → Timestamp}
    (read : ∀ time : Timestamp,
      time.IsExpressible → Timestamp.ofText? (render time) = some (cut time))
    {time : Option Timestamp}
    (expressible : ∀ present ∈ time, present.IsExpressible) :
    time? (timeJson render time) = some (time.map cut) := by
  cases time with
  | none => rfl
  | some present => rw [timeJson, time?, read present (expressible present rfl)]; rfl

/-- A record is read from the text of an annotation. -/
theorem ofText?_render
    {record : Record}
    (expressible : record.IsExpressible) :
    ofText? record.toJson.render = some record := by
  have acquired := time?_timeJson (fun _ => Timestamp.ofText?_render) expressible.acquired
  have renewed := time?_timeJson (fun _ => Timestamp.ofText?_render) expressible.renewed
  have unique : hasRepetition
      [("holderIdentity", .text record.holder),
        ("leaseDurationSeconds", .whole record.leaseSeconds.toInt),
        ("acquireTime", timeJson Timestamp.render record.acquired),
        ("renewTime", timeJson Timestamp.render record.renewed),
        ("leaderTransitions", .whole record.transitions.toInt)] = false := rfl
  rw [ofText?, Json.ofText?_render]
  dsimp only [Option.bind_eq_bind, Option.bind_some]
  rw [toJson, ofJson?, unique]
  simp [ofMembers?, Json.lookup_cons, orDefault, Json.text?, int32?_toInt, acquired, renewed]

/-- A record is read from the specification of a lease to the microsecond. -/
theorem ofLeaseSpec?_toLeaseSpec
    {record : Record}
    (expressible : record.IsExpressible) :
    ofLeaseSpec? record.toLeaseSpec = some record.toMicros := by
  have acquired := time?_timeJson (fun _ => Timestamp.ofText?_renderMicros) expressible.acquired
  have renewed := time?_timeJson (fun _ => Timestamp.ofText?_renderMicros) expressible.renewed
  unfold ofLeaseSpec? toLeaseSpec toMicros
  obtain ⟨holder, leaseSeconds, acquiredTime, renewedTime, transitions⟩ := record
  -- A time that is absent has no member, so that the members differ from case to case.
  cases acquiredTime <;> cases renewedTime <;>
    simp only [timeJson, Option.map_some, Option.map_none] at acquired renewed <;>
    simp [presentMember, timeJson, Json.isObject, Json.optional, Json.member?, Json.lookup_cons,
      Json.text?, int32?_toInt, acquired, renewed]

end Record

end VolumeAttacher
