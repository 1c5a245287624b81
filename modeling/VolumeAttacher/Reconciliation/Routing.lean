import VolumeAttacher.Reconciliation.Request
import VolumeAttacher.Volume
import VolumeAttacher.WorkQueue

/-!
# From changes to keys, and from results to queues

Which keys are to be worked on when an object was seen, and what becomes of a key once it was worked
on.
-/

namespace VolumeAttacher

/-- The kinds of keys that are worked on. -/
inductive Subject where
  | attachment | volume
  deriving DecidableEq

/-- A key to be worked on. -/
structure Task where
  subject : Subject
  name : String
  deriving DecidableEq

namespace Routing

/-- The keys of an attachment that was seen, changed or gone: its own, and that of its volume, which
may now be free. -/
def ofAttachment (attacher : Attacher) (attachment : VolumeAttachment) : List Task :=
  if attachment.isFor attacher.driver then
    ⟨.attachment, attachment.name⟩ ::
      (attachment.volumeName.map fun volume => ⟨.volume, volume⟩).toList
  else []

/-- The keys of a volume that was seen, changed or gone. -/
def ofVolume (attacher : Attacher) (volume : PersistentVolume) : List Task :=
  if volume.belongsTo attacher.driver || volume.metadata.hasFinalizer attacher.finalizer then
    [⟨.volume, volume.name⟩]
  else []

/-- The keys of everything in the caches. -/
def ofCaches (attacher : Attacher) (caches : Caches) : List Task :=
  caches.attachments.flatMap (ofAttachment attacher) ++
    caches.volumes.flatMap (ofVolume attacher)

/-- What becomes of a key after it was worked on: the queue that remembers or forgets its failures,
and the time after which the key is added again, if it is. -/
def settle
    (queue : WorkQueue String)
    (key : String)
    (result : Except Fault Unit) : WorkQueue String × Option Nat :=
  match result with
  | .ok () => (queue.forget key, none)
  | .error fault =>
    match fault.retry with
    | .backoff =>
      let (queue, delay) := queue.fail key
      (queue, some delay)
    | .after delay => (queue, some delay.nanos)
    | .never => (queue.forget key, none)

end Routing

end VolumeAttacher
