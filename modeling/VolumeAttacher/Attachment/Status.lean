import VolumeAttacher.Json
import VolumeAttacher.Timestamp

/-!
# Status patches

What is merged into the status of an attachment after each outcome. A member that is null removes
what stands there.
-/

namespace VolumeAttacher

/-- A change of the status of an attachment. -/
inductive StatusPatch where
  /-- The volume is attached; the driver returned `metadata`. -/
  | attached (metadata : Json.TextMap)
  /-- The driver failed to attach the volume. -/
  | attachFailed (message : String)
  /-- The volume is detached. -/
  | detached
  /-- The driver failed to detach the volume. -/
  | detachFailed (message : String)
  deriving DecidableEq

namespace StatusPatch

/-- The report of a failure at a time. -/
def failure (now : Timestamp) (message : String) : Json :=
  .object [("time", .text now.renderSeconds), ("message", .text message)]

/-- What is written for a map; nothing is written for an empty one. -/
def metadataJson (metadata : Json.TextMap) : Json :=
  if metadata.isEmpty then .null else .ofTextMap metadata

/-- The merge patch of a change made at a time. -/
def toJson (now : Timestamp) : StatusPatch → Json
  | .attached metadata =>
    .object [
      ("attached", .boolean true),
      ("attachmentMetadata", metadataJson metadata),
      ("attachError", .null)]
  | .attachFailed message => .object [("attachError", failure now message)]
  | .detached =>
    .object [
      ("attached", .boolean false),
      ("attachmentMetadata", .null),
      ("detachError", .null)]
  | .detachFailed message => .object [("detachError", failure now message)]

end StatusPatch

end VolumeAttacher
