import VolumeAttacher.Driver.Service
import VolumeAttacher.Strategy
import VolumeAttacher.Proofs.Driver.Wire

/-!
# Declared capabilities are read back

A driver declares its capabilities as a list of messages, in any order, each with the number of a
capability or with nothing. Reading finds the capabilities whose numbers are declared; what else is
declared, how often and in which order does not matter.
-/

namespace VolumeAttacher

open Wire

/-! ## Numbers of capabilities -/

theorem getElem?_eq_some_iff_eq_idxOf
    {α : Type}
    [DecidableEq α]
    {items : List α}
    {item : α}
    (distinct : items.Nodup)
    (present : item ∈ items)
    (index : Nat) :
    items[index]? = some item ↔ index = items.idxOf item := by
  constructor
  · intro found
    obtain ⟨inside, rfl⟩ := List.getElem?_eq_some_iff.mp found
    exact (distinct.idxOf_getElem index inside).symm
  · rintro rfl
    exact List.getElem?_idxOf present

namespace ServiceCapability

/-- The number of a service. -/
def number (capability : ServiceCapability) : Int := all.idxOf capability + 1

theorem mem_all (capability : ServiceCapability) : capability ∈ all := by
  cases capability <;> decide

theorem ofNumber?_eq_some_iff {number : Int} {capability : ServiceCapability} :
    ofNumber? number = some capability ↔ number = capability.number := by
  have known := getElem?_eq_some_iff_eq_idxOf (by decide : all.Nodup) (mem_all capability)
  unfold ofNumber? ServiceCapability.number
  split_ifs with positive
  · rw [known]
    omega
  · exact ⟨nofun, fun same => by omega⟩

end ServiceCapability

namespace ControllerCapability

/-- The number of an operation. -/
def number (capability : ControllerCapability) : Int := all.idxOf capability + 1

theorem mem_all (capability : ControllerCapability) : capability ∈ all := by
  cases capability <;> decide

theorem ofNumber?_eq_some_iff {number : Int} {capability : ControllerCapability} :
    ofNumber? number = some capability ↔ number = capability.number := by
  have known := getElem?_eq_some_iff_eq_idxOf (by decide : all.Nodup) (mem_all capability)
  unfold ofNumber? ControllerCapability.number
  split_ifs with positive
  · rw [known]
    omega
  · exact ⟨nofun, fun same => by omega⟩

end ControllerCapability

namespace Capabilities

@[simp] theorem mem_serviceSet {services : List ServiceCapability}
    {capability : ServiceCapability} :
    capability ∈ serviceSet services ↔ capability ∈ services := by
  simp [serviceSet, ServiceCapability.mem_all]

@[simp] theorem mem_operationSet {operations : List ControllerCapability}
    {capability : ControllerCapability} :
    capability ∈ operationSet operations ↔ capability ∈ operations := by
  simp [operationSet, ControllerCapability.mem_all]

end Capabilities

/-! ## Declarations -/

namespace DriverReply

/-- A number of 32 bits with a sign as it is written, with 64 bits. -/
def extended (code : Int32) : Nat := (code.toInt % 2 ^ 64).toNat

/-- A capability as a driver declares it, with or without its number. -/
def entry : Option Int32 → List UInt8
  | none => []
  | some code => octetsField 1 (numberField 1 (extended code))

/-- The numbers that are declared, in their order. -/
def numbers (codes : List (Option Int32)) : List Int := codes.filterMap (·.map Int32.toInt)

/-- A declaration of capabilities. -/
def declaration (codes : List (Option Int32)) : List UInt8 :=
  codes.flatMap fun code => octetsField 1 (entry code)

theorem extended_lt (code : Int32) : extended code < 2 ^ 64 := by
  unfold extended
  omega

/-- The sign is not lost. -/
theorem number?_extended (code : Int32) : number? (.varint (extended code)) = some code.toInt := by
  have lower := code.le_toInt
  have upper := code.toInt_lt
  have cut : Int.bmod ((code.toInt % 2 ^ 64).toNat : Int) (2 ^ 32) = code.toInt := by
    rw [Int.bmod_def]
    push_cast
    split_ifs <;> omega
  exact congrArg some cut

theorem length_numberField_le (code : Int32) :
    (numberField 1 (extended code)).length ≤ 11 := by
  have short := length_varint_le 9 (Nat.lt_trans (extended_lt code) (by decide))
  have mark : (key 1 0).length ≤ 1 := length_varint_le 0 (by decide)
  unfold numberField
  split_ifs
  · exact Nat.zero_le _
  · rw [List.length_append]
    omega

theorem length_octetsField_le {content : List UInt8} (short : content.length < 128) :
    (octetsField 1 content).length ≤ content.length + 2 := by
  have count := length_varint_le 0 short
  have mark : (key 1 2).length ≤ 1 := length_varint_le 0 (by decide)
  rw [octetsField, List.length_append, List.length_append]
  omega

theorem length_entry_le (code : Option Int32) : (entry code).length ≤ 13 := by
  cases code with
  | none => exact Nat.zero_le _
  | some code =>
    have short := length_numberField_le code
    exact (length_octetsField_le (by omega)).trans (by omega)

/-- A number that is zero is not written, and read as zero. -/
theorem lastOf_extended (code : Int32) :
    lastOf 1 number? 0 (numberFieldsOf 1 (extended code)) = some code.toInt := by
  by_cases zero : extended code = 0
  · have read := number?_extended code
    rw [zero] at read ⊢
    exact read
  · rw [lastOf_number 1 zero, number?_extended]

/-- A capability is read back with its number, if it has one. -/
theorem capability?_entry (code : Option Int32) :
    capability? (.octets (entry code)) = some (code.map Int32.toInt) := by
  have length := length_entry_le code
  cases code with
  | none =>
    have opened : message? 1 (.octets (entry none)) = some [] := Holds.nil.readFields (by decide) _
    rw [capability?, opened]
    rfl
  | some code =>
    have inner := length_numberField_le code
    rw [entry] at length
    have opened : message? 1 (.octets (entry (some code))) =
        some (octetsFieldsOf 1 (numberField 1 (extended code))) :=
      (holds_octetsField (by decide) _).readFields (by omega) _
    have numbered : message? 2 (.octets (numberField 1 (extended code))) =
        some (numberFieldsOf 1 (extended code)) :=
      (holds_numberField (by decide) (extended_lt code)).readFields (by omega) _
    have last : lastOf 1 number? 0 [numberFieldsOf 1 (extended code)].flatten =
        some code.toInt := by
      rw [List.flatten_singleton, lastOf_extended]
    rw [capability?, opened]
    dsimp only [Option.bind_eq_bind, Option.bind_some]
    rw [valuesOf_octetsFieldsOf, numbered]
    dsimp only [Option.map_some, Option.bind_some, List.isEmpty_cons]
    rw [if_neg Bool.false_ne_true, last]
    rfl

/-- The numbers of a declaration are read back in their order. -/
theorem capabilities?_declaration (codes : List (Option Int32)) :
    capabilities? (declaration codes) = some (numbers codes) := by
  have short (code : Option Int32) : (octetsField 1 (entry code)).length < 2 ^ 64 := by
    have length := length_entry_le code
    exact (length_octetsField_le (by omega)).trans_lt (by omega)
  have opened : fields (declaration codes) =
      some (codes.map fun code => ⟨1, .octets (entry code)⟩) :=
    Holds.readFields_flatMap (fun _ => holds_octetsField (by decide) _) short _ codes
  have values : valuesOf 1 capability? (codes.map fun code => ⟨1, .octets (entry code)⟩) =
      some (codes.map (·.map Int32.toInt)) :=
    valuesOf_map_of_read capability? (fun _ => rfl) fun code _ => capability?_entry code
  rw [capabilities?, opened]
  dsimp only [Option.bind_eq_bind, Option.bind_some]
  rw [values, Option.bind_some, List.filterMap_map]
  rfl

theorem services?_declaration (codes : List (Option Int32)) :
    services? (declaration codes) =
      some (Capabilities.serviceSet ((numbers codes).filterMap ServiceCapability.ofNumber?)) := by
  rw [services?, capabilities?_declaration]
  rfl

theorem operations?_declaration (codes : List (Option Int32)) :
    operations? (declaration codes) =
      some (Capabilities.operationSet
        ((numbers codes).filterMap ControllerCapability.ofNumber?)) := by
  rw [operations?, capabilities?_declaration]
  rfl

end DriverReply

theorem DriverCall.result_message
    (call : DriverCall)
    {octets : List UInt8}
    {result : call.Result}
    (read : call.read? octets = some result) :
    call.result (.message octets) = .ok result := by
  unfold DriverCall.result
  dsimp only
  rw [read]

/-! ## What a driver declares -/

namespace Capabilities

/-- The capabilities of a driver that answers the questions for its services and its operations with
these declarations. -/
def declaredBy (services operations : List (Option Int32)) : Except Fault Capabilities := do
  let services ← DriverCall.services.result (.message (DriverReply.declaration services))
  let operations ← DriverCall.operations.result (.message (DriverReply.declaration operations))
  return .ofLists services operations

/-- Every answer to the questions for the capabilities of a driver is understood, and the driver has
the capabilities whose numbers it declares. -/
theorem exists_declaredBy (services operations : List (Option Int32)) :
    ∃ capabilities,
      declaredBy services operations = .ok capabilities ∧
      (∀ capability, capability ∈ capabilities.services ↔
        capability.number ∈ DriverReply.numbers services) ∧
      ∀ capability, capability ∈ capabilities.operations ↔
        capability.number ∈ DriverReply.numbers operations := by
  let known := (DriverReply.numbers services).filterMap ServiceCapability.ofNumber?
  let supported := (DriverReply.numbers operations).filterMap ControllerCapability.ofNumber?
  refine ⟨.ofLists (serviceSet known) (operationSet supported), ?_, fun capability => ?_,
    fun capability => ?_⟩
  · rw [declaredBy,
      DriverCall.result_message .services (DriverReply.services?_declaration services),
      DriverCall.result_message .operations (DriverReply.operations?_declaration operations)]
    rfl
  · simp [ofLists, known, ServiceCapability.ofNumber?_eq_some_iff]
  · simp [ofLists, supported, ControllerCapability.ofNumber?_eq_some_iff]

theorem mem_numbers_iff {codes : List (Option Int32)} {number : Int} {code : Int32}
    (same : number = code.toInt) : number ∈ DriverReply.numbers codes ↔ some code ∈ codes := by
  simp [DriverReply.numbers, same, Int32.toInt_inj]

/-- Three numbers decide how attachments are brought to their desired state. -/
theorem exists_select_of_declaredBy (services operations : List (Option Int32)) :
    ∃ capabilities,
      declaredBy services operations = .ok capabilities ∧
      Strategy.select capabilities =
        if some 1 ∈ services ∧ some 2 ∈ operations then
          .driverBacked (decide (some 8 ∈ operations))
        else .trivial := by
  obtain ⟨capabilities, declared, hasService, hasOperation⟩ :=
    exists_declaredBy services operations
  have hasController : ServiceCapability.controllerService ∈ capabilities.services ↔
      some 1 ∈ services := (hasService _).trans (mem_numbers_iff (by decide))
  have canPublish : ControllerCapability.publishUnpublishVolume ∈ capabilities.operations ↔
      some 2 ∈ operations := (hasOperation _).trans (mem_numbers_iff (by decide))
  have honors : ControllerCapability.publishReadonly ∈ capabilities.operations ↔
      some 8 ∈ operations := (hasOperation _).trans (mem_numbers_iff (by decide))
  refine ⟨capabilities, declared, ?_⟩
  simp [Strategy.select, hasControllerService, Capabilities.canPublish, honorsReadOnly,
    hasController, canPublish, honors]

end Capabilities

end VolumeAttacher
