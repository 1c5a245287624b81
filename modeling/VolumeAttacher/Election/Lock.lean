import VolumeAttacher.Election.Record
import VolumeAttacher.Fault

/-!
# Locks

What a candidate asks of the object that holds the election's record. A lock keeps the election safe
by two checks: nothing is created over what exists, and nothing is updated that changed since it was
read.
-/

namespace VolumeAttacher

/-- A record, and the version of the object that it was read from. -/
structure Versioned where
  record : Record
  version : String
  deriving DecidableEq

/-- What a candidate asks of a lock. -/
inductive LockCall where
  | get
  | create (record : Record)
  /-- Replace the record of a version. -/
  | update (record : Record) (version : String)
  deriving DecidableEq

/-- What a lock answers: to `get` what it holds, to the others whether the record was written. -/
inductive LockReply where
  | got (result : Except Fault (Option Versioned))
  | written (result : Except Fault Unit)

/-- An object that holds a record, with the number of its version. -/
structure LockSlot where
  record : Record
  version : Nat
  deriving DecidableEq

namespace LockSlot

/-- The text of a version. -/
def versionText (slot : LockSlot) : String := toString slot.version

/-- What `get` answers. -/
def read (slot : Option LockSlot) : Option Versioned :=
  slot.map fun slot => ⟨slot.record, slot.versionText⟩

/-- What a call does to the object of a name, and the answer to it. The first version is one, and
each write makes the next. -/
def perform (name : String) (slot : Option LockSlot) : LockCall → Option LockSlot × LockReply
  | .get => (slot, .got (.ok (read slot)))
  | .create record =>
    match slot with
    | none => (some ⟨record, 1⟩, .written (.ok ()))
    | some _ => (slot, .written (.error (.lockConflict name)))
  | .update record version =>
    match slot with
    | none => (none, .written (.error (.notFound "Lease" name)))
    | some current =>
      if current.versionText = version then
        (some ⟨record, current.version + 1⟩, .written (.ok ()))
      else (slot, .written (.error (.lockConflict name)))

end LockSlot

end VolumeAttacher
