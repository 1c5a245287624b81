import VolumeAttacher.Driver.Call
import VolumeAttacher.Driver.Wire

/-!
# The messages of driver calls

How requests to a driver are written, and how its replies are read. Requests can be read back, which
shows that writing loses nothing.
-/

namespace VolumeAttacher

namespace AccessType

/-- The field of a volume's presentation; block volumes have an empty message. -/
def toWire : AccessType → List UInt8
  | .block => Wire.octetsField 1 []
  | .mount fileSystem flags =>
    Wire.octetsField 2 (Wire.textField 1 fileSystem ++ flags.flatMap (Wire.textItem 2))

/-- A presentation after one more field. A message of the presentation that is there already adds to
it, any other replaces it. -/
def extendWire (current : Option AccessType) (field : Wire.Field) : Option (Option AccessType) :=
  if field.number = 1 then do
    let _ ← Wire.message? 2 field.value
    return some .block
  else if field.number = 2 then do
    let fields ← Wire.message? 2 field.value
    let (fileSystem, flags) := match current with
      | some (.mount fileSystem flags) => (fileSystem, flags)
      | _ => ("", [])
    let fileSystem ← Wire.lastOf 1 Wire.text? fileSystem fields
    let more ← Wire.valuesOf 2 Wire.text? fields
    let _ ← Wire.valuesOf 3 Wire.text? fields
    return some (.mount fileSystem (flags ++ more))
  else return current

end AccessType

namespace VolumeAccess

/-- The message of an access. -/
def toWire (access : VolumeAccess) : List UInt8 :=
  access.type.toWire ++ Wire.octetsField 3 (Wire.numberField 1 access.mode.number)

/-- The access that the fields of a message stand for. -/
def ofWire? (fields : List Wire.Field) : Option VolumeAccess := do
  let type ← fields.foldlM AccessType.extendWire none
  let modes ← Wire.valuesOf 3 (Wire.message? 2) fields
  let mode ← Wire.lastOf 1 Wire.number? 0 modes.flatten
  return ⟨← type, ← AccessMode.ofNumber? mode⟩

end VolumeAccess

namespace PublishRequest

/-- The message of a request. -/
def toWire (request : PublishRequest) : List UInt8 :=
  Wire.textField 1 request.volumeId ++ Wire.textField 2 request.nodeId ++
    Wire.octetsField 3 request.access.toWire ++ Wire.flagField 4 request.readOnly ++
    Wire.mapField 5 request.secrets ++ Wire.mapField 6 request.context

/-- The request that a message stands for. -/
def ofWire? (octets : List UInt8) : Option PublishRequest := do
  let fields ← Wire.fields octets
  let access ← Wire.valuesOf 3 (Wire.message? 1) fields
  return {
    volumeId := ← Wire.lastOf 1 Wire.text? "" fields
    nodeId := ← Wire.lastOf 2 Wire.text? "" fields
    access := ← VolumeAccess.ofWire? access.flatten
    readOnly := ← Wire.lastOf 4 Wire.flag? false fields
    secrets := Json.TextMap.ofList (← Wire.valuesOf 5 (Wire.entry? 1) fields)
    context := Json.TextMap.ofList (← Wire.valuesOf 6 (Wire.entry? 1) fields) }

end PublishRequest

namespace UnpublishRequest

/-- The message of a request. -/
def toWire (request : UnpublishRequest) : List UInt8 :=
  Wire.textField 1 request.volumeId ++ Wire.textField 2 request.nodeId ++
    Wire.mapField 3 request.secrets

/-- The request that a message stands for. -/
def ofWire? (octets : List UInt8) : Option UnpublishRequest := do
  let fields ← Wire.fields octets
  return {
    volumeId := ← Wire.lastOf 1 Wire.text? "" fields
    nodeId := ← Wire.lastOf 2 Wire.text? "" fields
    secrets := Json.TextMap.ofList (← Wire.valuesOf 3 (Wire.entry? 1) fields) }

end UnpublishRequest

namespace DriverReply

/-- Whether a driver is ready; one that says nothing is. -/
def ready? (octets : List UInt8) : Option Bool := do
  let fields ← Wire.fields octets
  let messages ← Wire.valuesOf 1 (Wire.message? 1) fields
  if messages.isEmpty then return true
  else Wire.lastOf 1 Wire.flag? false messages.flatten

/-- The name that a driver gives itself, empty if it says none. -/
def name? (octets : List UInt8) : Option String := do
  let fields ← Wire.fields octets
  let _ ← Wire.valuesOf 2 Wire.text? fields
  let _ ← Wire.valuesOf 3 (Wire.entry? 1) fields
  Wire.lastOf 1 Wire.text? "" fields

/-- The number that one declared capability stands for, if it has one. -/
def capability? (value : Wire.Value) : Option (Option Int) := do
  let fields ← Wire.message? 1 value
  let messages ← Wire.valuesOf 1 (Wire.message? 2) fields
  if messages.isEmpty then return none
  else return some (← Wire.lastOf 1 Wire.number? 0 messages.flatten)

/-- The numbers of the declared capabilities, in order. -/
def capabilities? (octets : List UInt8) : Option (List Int) := do
  let fields ← Wire.fields octets
  let declared ← Wire.valuesOf 1 capability? fields
  return declared.filterMap id

/-- The services that a driver declares. -/
def services? (octets : List UInt8) : Option (List ServiceCapability) := do
  return Capabilities.serviceSet ((← capabilities? octets).filterMap ServiceCapability.ofNumber?)

/-- The operations that a driver declares. -/
def operations? (octets : List UInt8) : Option (List ControllerCapability) := do
  return Capabilities.operationSet
    ((← capabilities? octets).filterMap ControllerCapability.ofNumber?)

/-- What a driver says about a volume that it published. -/
def publishContext? (octets : List UInt8) : Option Json.TextMap := do
  let fields ← Wire.fields octets
  return Json.TextMap.ofList (← Wire.valuesOf 1 (Wire.entry? 1) fields)

/-- Any message, of which nothing is used. -/
def nothing? (octets : List UInt8) : Option Unit := do
  let _ ← Wire.fields octets
  return ()

end DriverReply

end VolumeAttacher
