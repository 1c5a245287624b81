import VolumeAttacher.Driver.Service
import VolumeAttacher.Proofs.Driver.Wire
import VolumeAttacher.Proofs.Json.TextMaps

/-!
# Requests survive the wire

The message of a request holds the fields of its parts, each of which is read back on its own. The
entries of a map may be sent in any order, as they are put in order when the map is made again.
-/

namespace VolumeAttacher

open Wire

namespace AccessType

/-- The field of a volume's presentation. -/
def fieldOf : AccessType → Field
  | .block => ⟨1, .octets []⟩
  | .mount fileSystem flags =>
    ⟨2, .octets (textField 1 fileSystem ++ flags.flatMap (textItem 2))⟩

theorem holds_toWire (type : AccessType) : Holds type.toWire [type.fieldOf] := by
  cases type with
  | block => exact holds_octetsField (by decide) _
  | mount fileSystem flags => exact holds_octetsField (by decide) _

theorem fieldOf_number (type : AccessType) : type.fieldOf.number ≠ 3 := by
  cases type <;> exact nofun

/-- A presentation is read back from its field. -/
theorem extendWire_fieldOf
    {type : AccessType}
    (short : type.toWire.length < 2 ^ 64) :
    extendWire none type.fieldOf = some (some type) := by
  cases type with
  | block =>
    have opened : message? 2 (.octets []) = some [] := Holds.nil.readFields (by decide) _
    unfold extendWire fieldOf
    dsimp only
    rw [if_pos rfl, opened]
    rfl
  | mount fileSystem flags =>
    have holds : Holds (textField 1 fileSystem ++ flags.flatMap (textItem 2))
        (textFieldsOf 1 fileSystem ++ flags.map (textItemOf 2)) :=
      (holds_textField (by decide) _).append (.flatMap (holds_textItem (by decide)) _)
    have opened : message? 2 (.octets (textField 1 fileSystem ++ flags.flatMap (textItem 2))) =
        some (textFieldsOf 1 fileSystem ++ flags.map (textItemOf 2)) := by
      refine holds.readFields ?_ _
      rw [toWire, octetsField, List.length_append] at short
      omega
    have others {number : Nat} (differ : 2 ≠ number) (read : Value → Option String) :
        valuesOf number read (flags.map (textItemOf 2)) = some [] :=
      valuesOf_map_of_ne read differ (fun _ => rfl) flags
    have first : lastOf 1 text? "" (textFieldsOf 1 fileSystem ++ flags.map (textItemOf 2)) =
        some fileSystem := by
      apply lastOf_text
      simp [valuesOf_textFieldsOf, others]
    have second : valuesOf 2 text? (textFieldsOf 1 fileSystem ++ flags.map (textItemOf 2)) =
        some flags := by
      have kept : valuesOf 2 text? (flags.map (textItemOf 2)) = some flags :=
        valuesOf_map text? (fun _ => rfl) fun flag _ => text?_octets flag
      simp [kept]
    have third : valuesOf 3 text? (textFieldsOf 1 fileSystem ++ flags.map (textItemOf 2)) =
        some [] := by
      simp [others]
    unfold extendWire fieldOf
    dsimp only
    rw [if_neg (by decide), if_pos rfl, opened]
    dsimp only [Option.bind_eq_bind, Option.bind_some]
    rw [first, second, third]
    rfl

end AccessType

namespace VolumeAccess

/-- The fields of an access. -/
def fieldsOf (access : VolumeAccess) : List Field :=
  [access.type.fieldOf, ⟨3, .octets (numberField 1 access.mode.number)⟩]

theorem holds_toWire (access : VolumeAccess) : Holds access.toWire access.fieldsOf :=
  access.type.holds_toWire.append (holds_octetsField (by decide) _)

theorem mode_bounds (mode : AccessMode) : mode.number ≠ 0 ∧ mode.number ≤ 5 := by
  cases mode <;> decide

theorem exists_number (mode : AccessMode) :
    ∃ number, number? (.varint mode.number) = some number ∧
      AccessMode.ofNumber? number = some mode := by
  cases mode <;> exact ⟨_, rfl, rfl⟩

/-- An access is read back from its fields. -/
theorem ofWire?_fieldsOf
    {access : VolumeAccess}
    (short : access.toWire.length < 2 ^ 64) :
    ofWire? access.fieldsOf = some access := by
  rw [toWire, List.length_append, octetsField, List.length_append] at short
  obtain ⟨present, small⟩ := mode_bounds access.mode
  obtain ⟨number, read, known⟩ := exists_number access.mode
  have type : access.fieldsOf.foldlM AccessType.extendWire none = some (some access.type) := by
    rw [fieldsOf, List.foldlM_cons, AccessType.extendWire_fieldOf (by omega)]
    rfl
  have opened : message? 2 (.octets (numberField 1 access.mode.number)) = some _ :=
    (holds_numberField (by decide) (by omega)).readFields (by omega) _
  have modes : valuesOf 3 (message? 2) access.fieldsOf =
      some [numberFieldsOf 1 access.mode.number] := by
    rw [fieldsOf, ← List.singleton_append, valuesOf_append,
      valuesOf_singleton_of_ne _ access.type.fieldOf_number, valuesOf_singleton, opened]
    rfl
  have last : lastOf 1 number? 0 (numberFieldsOf 1 access.mode.number) = some number := by
    rw [lastOf_number 1 present, read]
  simp [ofWire?, type, modes, last, known]

end VolumeAccess

namespace PublishRequest

/-- The fields of a request to publish. -/
def fieldsOf (request : PublishRequest) : List Field :=
  textFieldsOf 1 request.volumeId ++ textFieldsOf 2 request.nodeId ++
    octetsFieldsOf 3 request.access.toWire ++ flagFieldsOf 4 request.readOnly ++
    request.secrets.map (entryOf 5) ++ request.context.map (entryOf 6)

theorem holds_toWire (request : PublishRequest) : Holds request.toWire request.fieldsOf :=
  (((((holds_textField (by decide) _).append (holds_textField (by decide) _)).append
    (holds_octetsField (by decide) _)).append (holds_flagField (by decide) _)).append
    (holds_mapField (by decide) _)).append (holds_mapField (by decide) _)

/-- A request to publish is read back from its message, its maps in order. -/
theorem ofWire?_toWire
    {request : PublishRequest}
    (short : request.toWire.length < 2 ^ 64) :
    ofWire? request.toWire = some { request with
      secrets := Json.TextMap.ofList request.secrets
      context := Json.TextMap.ofList request.context } := by
  have fields : Wire.fields request.toWire = some request.fieldsOf :=
    request.holds_toWire.readFields short _
  simp only [toWire, octetsField, List.length_append] at short
  have opened : message? 1 (.octets request.access.toWire) = some request.access.fieldsOf :=
    request.access.holds_toWire.readFields (by omega) _
  have secretsRead : valuesOf 5 (Wire.entry? 1) (request.secrets.map (entryOf 5)) =
      some request.secrets := valuesOf_entries 1 (by omega)
  have contextRead : valuesOf 6 (Wire.entry? 1) (request.context.map (entryOf 6)) =
      some request.context := valuesOf_entries 1 (by omega)
  have accessRead : VolumeAccess.ofWire? request.access.fieldsOf = some request.access :=
    VolumeAccess.ofWire?_fieldsOf (by omega)
  have volumeId : lastOf 1 text? "" request.fieldsOf = some request.volumeId :=
    lastOf_text (by simp [fieldsOf, valuesOf_textFieldsOf])
  have nodeId : lastOf 2 text? "" request.fieldsOf = some request.nodeId :=
    lastOf_text (by simp [fieldsOf, valuesOf_textFieldsOf])
  have access : valuesOf 3 (message? 1) request.fieldsOf = some [request.access.fieldsOf] := by
    simp [fieldsOf, valuesOf_octetsFieldsOf, opened]
  have readOnly : lastOf 4 flag? false request.fieldsOf = some request.readOnly :=
    lastOf_flag (by simp [fieldsOf, valuesOf_flagFieldsOf])
  have secrets : valuesOf 5 (Wire.entry? 1) request.fieldsOf = some request.secrets := by
    simp [fieldsOf, secretsRead]
  have context : valuesOf 6 (Wire.entry? 1) request.fieldsOf = some request.context := by
    simp [fieldsOf, contextRead]
  simp [ofWire?, fields, access, accessRead, volumeId, nodeId, readOnly, secrets, context]

end PublishRequest

namespace UnpublishRequest

/-- The fields of a request to withdraw. -/
def fieldsOf (request : UnpublishRequest) : List Field :=
  textFieldsOf 1 request.volumeId ++ textFieldsOf 2 request.nodeId ++
    request.secrets.map (entryOf 3)

theorem holds_toWire (request : UnpublishRequest) : Holds request.toWire request.fieldsOf :=
  ((holds_textField (by decide) _).append (holds_textField (by decide) _)).append
    (holds_mapField (by decide) _)

/-- A request to withdraw is read back from its message, its map in order. -/
theorem ofWire?_toWire
    {request : UnpublishRequest}
    (short : request.toWire.length < 2 ^ 64) :
    ofWire? request.toWire =
      some { request with secrets := Json.TextMap.ofList request.secrets } := by
  have fields : Wire.fields request.toWire = some request.fieldsOf :=
    request.holds_toWire.readFields short _
  simp only [toWire, List.length_append] at short
  have secretsRead : valuesOf 3 (Wire.entry? 1) (request.secrets.map (entryOf 3)) =
      some request.secrets := valuesOf_entries 1 (by omega)
  have volumeId : lastOf 1 text? "" request.fieldsOf = some request.volumeId :=
    lastOf_text (by simp [fieldsOf, valuesOf_textFieldsOf])
  have nodeId : lastOf 2 text? "" request.fieldsOf = some request.nodeId :=
    lastOf_text (by simp [fieldsOf, valuesOf_textFieldsOf])
  have secrets : valuesOf 3 (Wire.entry? 1) request.fieldsOf = some request.secrets := by
    simp [fieldsOf, secretsRead]
  simp [ofWire?, fields, volumeId, nodeId, secrets]

end UnpublishRequest

/-- The message of a request to publish is no message of a request to withdraw: a mode of access is
no part of an entry of a map. -/
theorem PublishRequest.toWire_ne
    (publish : PublishRequest)
    (unpublish : UnpublishRequest)
    (short : publish.toWire.length < 2 ^ 64) :
    publish.toWire ≠ unpublish.toWire := by
  intro same
  have sameFields : publish.fieldsOf = unpublish.fieldsOf :=
    publish.holds_toWire.unique (same ▸ unpublish.holds_toWire) short
  have access : ⟨3, .octets publish.access.toWire⟩ ∈ unpublish.fieldsOf := by
    rw [← sameFields]
    simp [fieldsOf, octetsFieldsOf]
  obtain ⟨entry, isEntry⟩ :
      ∃ entry, entryOf 3 entry = ⟨3, .octets publish.access.toWire⟩ := by
    obtain texts | entries := List.mem_append.mp access
    · obtain text | text := List.mem_append.mp texts
      all_goals exact absurd (number_of_mem_textFieldsOf text) (by simp)
    · obtain ⟨entry, -, isEntry⟩ := List.mem_map.mp entries
      exact ⟨entry, isEntry⟩
  have content : textField 1 entry.1 ++ textField 2 entry.2 = publish.access.toWire := by
    injection isEntry with _ value
    exact Value.octets.inj value
  have contentFields : publish.access.fieldsOf =
      textFieldsOf 1 entry.1 ++ textFieldsOf 2 entry.2 := by
    refine publish.access.holds_toWire.unique (content ▸ holds_entry entry) ?_
    simp only [toWire, octetsField, List.length_append] at short
    omega
  have mode : ⟨3, .octets (numberField 1 publish.access.mode.number)⟩ ∈
      textFieldsOf 1 entry.1 ++ textFieldsOf 2 entry.2 := by
    rw [← contentFields]
    simp [VolumeAccess.fieldsOf]
  obtain text | text := List.mem_append.mp mode
  all_goals exact absurd (number_of_mem_textFieldsOf text) (by simp)

/-- A message of a request to publish, the entries of its maps in some order. -/
def PublishRequest.IsSentAs (request : PublishRequest) (octets : List UInt8) : Prop :=
  ∃ secrets context : List (String × String),
    secrets.Perm request.secrets ∧ context.Perm request.context ∧
      octets = (DriverCall.publish { request with secrets, context }).message

/-- A message of a request to withdraw, the entries of its map in some order. -/
def UnpublishRequest.IsSentAs (request : UnpublishRequest) (octets : List UInt8) : Prop :=
  ∃ secrets : List (String × String),
    secrets.Perm request.secrets ∧ octets = (DriverCall.unpublish { request with secrets }).message

/-- The maps of a request are as the program makes them. -/
def PublishRequest.HasMaps (request : PublishRequest) : Prop :=
  request.secrets.IsSorted ∧ request.context.IsSorted

/-- The map of a request is as the program makes it. -/
def UnpublishRequest.HasMaps (request : UnpublishRequest) : Prop :=
  request.secrets.IsSorted

theorem PublishRequest.ofWire?_of_isSentAs
    {request : PublishRequest}
    {octets : List UInt8}
    (hasMaps : request.HasMaps)
    (sent : request.IsSentAs octets)
    (short : octets.length < 2 ^ 64) :
    ofWire? octets = some request := by
  obtain ⟨secrets, context, sameSecrets, sameContext, rfl⟩ := sent
  rw [DriverCall.message, ofWire?_toWire short,
    Json.TextMap.ofList_eq_of_perm hasMaps.1 sameSecrets,
    Json.TextMap.ofList_eq_of_perm hasMaps.2 sameContext]

theorem UnpublishRequest.ofWire?_of_isSentAs
    {request : UnpublishRequest}
    {octets : List UInt8}
    (hasMaps : request.HasMaps)
    (sent : request.IsSentAs octets)
    (short : octets.length < 2 ^ 64) :
    ofWire? octets = some request := by
  obtain ⟨secrets, sameSecrets, rfl⟩ := sent
  rw [DriverCall.message, ofWire?_toWire short,
    Json.TextMap.ofList_eq_of_perm hasMaps sameSecrets]

/-- Requests survive the wire: whatever the order in which the entries of its maps are sent, a
request is read back from its message, so that no two requests have a message in common. The lengths
of messages have 64 bits. -/
theorem requests_survive_sending
    (octets : List UInt8)
    (short : octets.length < 2 ^ 64) :
    (∀ request : PublishRequest, request.HasMaps → request.IsSentAs octets →
      PublishRequest.ofWire? octets = some request ∧
      (∀ other : PublishRequest, other.HasMaps → other.IsSentAs octets → other = request) ∧
      ∀ other : UnpublishRequest, ¬other.IsSentAs octets) ∧
    ∀ request : UnpublishRequest, request.HasMaps → request.IsSentAs octets →
      UnpublishRequest.ofWire? octets = some request ∧
      ∀ other : UnpublishRequest, other.HasMaps → other.IsSentAs octets → other = request := by
  refine ⟨fun request hasMaps sent => ?_, fun request hasMaps sent => ?_⟩
  · have read := PublishRequest.ofWire?_of_isSentAs hasMaps sent short
    refine ⟨read, fun other otherMaps otherSent => ?_, fun other otherSent => ?_⟩
    · rw [PublishRequest.ofWire?_of_isSentAs otherMaps otherSent short] at read
      exact Option.some.inj read
    · obtain ⟨secrets, context, -, -, rfl⟩ := sent
      obtain ⟨otherSecrets, -, same⟩ := otherSent
      exact PublishRequest.toWire_ne _ _ short same
  · have read := UnpublishRequest.ofWire?_of_isSentAs hasMaps sent short
    refine ⟨read, fun other otherMaps otherSent => ?_⟩
    rw [UnpublishRequest.ofWire?_of_isSentAs otherMaps otherSent short] at read
    exact Option.some.inj read

/-- Requests with empty texts, empty keys and several flags are read back although the entries of
their maps are sent in the other order. -/
theorem request_survives_sending :
    let publish : PublishRequest :=
      { volumeId := "", nodeId := "n", access := ⟨.mount "" ["ro", ""], .multiNodeMultiWriter⟩
        readOnly := true, secrets := [("", "é"), ("k", "")], context := [] }
    let unpublish : UnpublishRequest :=
      { volumeId := "v", nodeId := "", secrets := [("", "é"), ("k", "")] }
    let entries : List (String × String) := [("k", ""), ("", "é")]
    PublishRequest.ofWire? (DriverCall.publish { publish with secrets := entries }).message =
        some publish ∧
      UnpublishRequest.ofWire?
          (DriverCall.unpublish { unpublish with secrets := entries }).message =
        some unpublish := by
  intro publish unpublish entries
  have ordered : Json.TextMap.IsSorted [("", "é"), ("k", "")] := by decide
  have same : entries.Perm [("", "é"), ("k", "")] := by decide
  constructor
  · refine ((requests_survive_sending _ ?_).1 publish ⟨ordered, List.Pairwise.nil⟩
      ⟨entries, [], same, List.Perm.refl _, rfl⟩).1
    decide +kernel
  · refine ((requests_survive_sending _ ?_).2 unpublish ordered ⟨entries, same, rfl⟩).1
    decide +kernel

end VolumeAttacher
