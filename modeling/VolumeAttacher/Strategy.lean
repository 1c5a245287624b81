import VolumeAttacher.Capability

/-!
# Strategies

How attachments are brought to their desired state, as the capabilities of the driver decide.
-/

namespace VolumeAttacher

/-- How attachments are brought to their desired state. -/
inductive Strategy where
  /-- Every attachment is satisfied at once and the driver is never called. -/
  | trivial
  /-- The driver is called; `readOnly` says whether it honors the read-only flag. -/
  | driverBacked (readOnly : Bool)
  deriving DecidableEq

namespace Strategy

/-- A driver that cannot publish volumes takes no part in attaching them, but its attachments are
still expected to become attached. -/
def select (capabilities : Capabilities) : Strategy :=
  if capabilities.hasControllerService && capabilities.canPublish then
    .driverBacked capabilities.honorsReadOnly
  else .trivial

def isTrivial (strategy : Strategy) : Bool :=
  strategy = .trivial

def render : Strategy → String
  | .trivial => "trivial"
  | .driverBacked readOnly => "plugin-backed (readonly publish: " ++ toString readOnly ++ ")"

def toJson : Strategy → Json
  | .trivial => .text "trivial"
  | .driverBacked readOnly =>
    .object [("pluginBacked", .object [("read_only", .boolean readOnly)])]

/-- A strategy as its name, or as an object of its name and its flag. -/
def ofJson? : Json → Option Strategy
  | .object [("pluginBacked", .object members)] => do
    return .driverBacked (← (← Json.lookup "read_only" members).boolean?)
  | value => if value.choice? = some "trivial" then some .trivial else none

end Strategy

end VolumeAttacher
