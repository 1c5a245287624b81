import VolumeAttacher.Reconciliation.Request
import VolumeAttacher.Volume

/-!
# Reconciling volumes

A volume that is being deleted loses the finalizer once no attachment of the driver refers to it.
-/

namespace VolumeAttacher
namespace Reconciliation

/-- Whether an attachment of the driver refers to a volume. -/
def isInUse (attacher : Attacher) (caches : Caches) (volume : String) : Bool :=
  caches.attachments.any (·.uses attacher.driver volume)

/-- Release the volume of a name if it is being deleted and nothing uses it. -/
def volume (attacher : Attacher) (caches : Caches) (name : String) : Reconciliation Unit := do
  match caches.volume? name with
  | none => return
  | some volume =>
    if volume.metadata.isDeleting && volume.metadata.hasFinalizer attacher.finalizer &&
        !isInUse attacher caches name then
      ofExcept (← (Request.removeVolumeFinalizer volume attacher.finalizer).attempt)

end Reconciliation

end VolumeAttacher
