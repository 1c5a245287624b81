import VolumeAttacher.Json

/-!
# Access to volumes

How a volume is presented on a node and who may use it at the same time.
-/

namespace VolumeAttacher

/-- How a volume is presented on a node. -/
inductive AccessType where
  | block
  | mount (fileSystem : String) (flags : List String)
  deriving DecidableEq

/-- How many nodes may use a volume, and for what. -/
inductive AccessMode where
  | singleNodeWriter | singleNodeReaderOnly | multiNodeReaderOnly | multiNodeSingleWriter
  | multiNodeMultiWriter
  deriving DecidableEq

/-- The access that a volume is published with. -/
structure VolumeAccess where
  type : AccessType
  mode : AccessMode
  deriving DecidableEq

namespace AccessMode

/-- The modes in the order of their numbers, from one. -/
def all : List AccessMode :=
  [.singleNodeWriter, .singleNodeReaderOnly, .multiNodeReaderOnly, .multiNodeSingleWriter,
    .multiNodeMultiWriter]

def name : AccessMode → String
  | .singleNodeWriter => "SingleNodeWriter"
  | .singleNodeReaderOnly => "SingleNodeReaderOnly"
  | .multiNodeReaderOnly => "MultiNodeReaderOnly"
  | .multiNodeSingleWriter => "MultiNodeSingleWriter"
  | .multiNodeMultiWriter => "MultiNodeMultiWriter"

def ofName? (text : String) : Option AccessMode :=
  all.find? fun mode => mode.name = text

/-- The number that stands for a mode on the wire. -/
def number : AccessMode → Nat
  | .singleNodeWriter => 1
  | .singleNodeReaderOnly => 2
  | .multiNodeReaderOnly => 3
  | .multiNodeSingleWriter => 4
  | .multiNodeMultiWriter => 5

def ofNumber? (number : Int) : Option AccessMode :=
  if 1 ≤ number then all[number.toNat - 1]? else none

/-- A mode as its name, also as the name of a member that is null. -/
def ofJson? (value : Json) : Option AccessMode := value.choice?.bind ofName?

end AccessMode

namespace AccessType

def toJson : AccessType → Json
  | .block => .text "Block"
  | .mount fileSystem flags =>
    .object [("Mount",
      .object [("fs_type", .text fileSystem), ("mount_flags", .ofTexts flags)])]

/-- A presentation as `Block`, or as an object of the file system and the flags, or as an array of
the two. -/
def ofJson? : Json → Option AccessType
  | .object [("Mount", .object members)] => do
    let fileSystem ← (← Json.lookup "fs_type" members).text?
    let flags ← (← Json.lookup "mount_flags" members).texts?
    return .mount fileSystem flags
  | value => if value.choice? = some "Block" then some .block else none

end AccessType

namespace VolumeAccess

def toJson (access : VolumeAccess) : Json :=
  .object [("access_type", access.type.toJson), ("access_mode", .text access.mode.name)]

/-- An access as an object or an array of its type and its mode. -/
def ofJson? : Json → Option VolumeAccess
  | .object members => do
    return ⟨← AccessType.ofJson? (← Json.lookup "access_type" members),
      ← AccessMode.ofJson? (← Json.lookup "access_mode" members)⟩
  | .array [type, mode] => do
    return ⟨← AccessType.ofJson? type, ← AccessMode.ofJson? mode⟩
  | _ => none

end VolumeAccess

end VolumeAttacher
