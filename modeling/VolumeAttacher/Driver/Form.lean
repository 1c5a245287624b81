import VolumeAttacher.Driver.Call
import VolumeAttacher.Json.Member

/-!
# Requests as documents

The requests to a driver as objects, for logs and scripts.
-/

namespace VolumeAttacher

namespace PublishRequest

def toJson (request : PublishRequest) : Json :=
  .object [("volume_id", .text request.volumeId), ("node_id", .text request.nodeId),
    ("capability", request.access.toJson), ("read_only", .boolean request.readOnly),
    ("secrets", .ofTextMap request.secrets), ("volume_context", .ofTextMap request.context)]

/-- The request of an object; a missing access is that of one writer to a block device. -/
def ofJson (value : Json) : PublishRequest where
  volumeId := value.textAt "volume_id"
  nodeId := value.textAt "node_id"
  access := (VolumeAccess.ofJson? (value.valueAt "capability")).getD ⟨.block, .singleNodeWriter⟩
  readOnly := value.flagAt "read_only"
  secrets := value.mapAt "secrets"
  context := value.mapAt "volume_context"

end PublishRequest

namespace UnpublishRequest

def toJson (request : UnpublishRequest) : Json :=
  .object [("volume_id", .text request.volumeId), ("node_id", .text request.nodeId),
    ("secrets", .ofTextMap request.secrets)]

def ofJson (value : Json) : UnpublishRequest where
  volumeId := value.textAt "volume_id"
  nodeId := value.textAt "node_id"
  secrets := value.mapAt "secrets"

end UnpublishRequest

end VolumeAttacher
