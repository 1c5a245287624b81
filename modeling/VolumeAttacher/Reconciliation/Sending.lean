import VolumeAttacher.Cluster.Client
import VolumeAttacher.Reconciliation.Request

/-!
# Requests that are sent to the cluster

What the client of the cluster sends for a request of the reconciler. A failure is reported with the
time at which it is sent.
-/

namespace VolumeAttacher

/-- What is sent to the cluster's server for a request at a time, if that is one to the cluster. -/
def Request.sent? (now : Timestamp) : Request → Option ClusterRequest
  | .addAttachmentFinalizer attachment finalizer nodeId =>
    some (ClusterClient.addAttachmentFinalizer attachment finalizer nodeId)
  | .removeAttachmentFinalizer attachment finalizer =>
    some (ClusterClient.removeAttachmentFinalizer attachment finalizer)
  | .patchStatus name patch => some (ClusterClient.patchStatus name (patch.toJson now))
  | .addVolumeFinalizer volume finalizer =>
    some (ClusterClient.addVolumeFinalizer volume finalizer)
  | .removeVolumeFinalizer volume finalizer =>
    some (ClusterClient.removeVolumeFinalizer volume finalizer)
  | .getSecret nameSpace name => some (ClusterClient.getSecret nameSpace name)
  | .publish _ _ | .unpublish _ _ | .record _ _ => none

end VolumeAttacher
