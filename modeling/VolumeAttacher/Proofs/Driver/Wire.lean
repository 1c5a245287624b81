import Mathlib.Data.List.Flatten
import Mathlib.Tactic.Ring
import VolumeAttacher.Driver.Wire
import VolumeAttacher.Proofs.Text.Utf8

/-!
# Written fields are read back

Every writer of a field is matched with the fields that reading finds in its octets. Octets hold
their fields whatever follows them, so a message holds the fields of its parts in order.
-/

namespace VolumeAttacher.Wire

/-- A varint of up to nine full groups and one more bit is read back. -/
theorem readVarint_varint
    {value : Nat}
    (limit : Nat)
    (rest : List UInt8)
    (fits : value < 2 ^ (7 * limit + 1)) :
    readVarint (limit + 1) (varint value ++ rest) = some (value, rest) := by
  induction limit generalizing value with
  | zero =>
    obtain rfl | rfl : value = 0 ∨ value = 1 := by omega
    all_goals
      rw [varint, if_pos (by decide), List.singleton_append, readVarint, if_pos (by decide)]
      rfl
  | succ limit inductionHypothesis =>
    rw [varint]
    split_ifs with small
    · have same : (UInt8.ofNat value).toNat = value :=
        UInt8.toNat_ofNat_of_lt' (by simp only [UInt8.size]; omega)
      have lower : UInt8.ofNat value < 128 := by
        rw [UInt8.lt_iff_toNat_lt, same]
        exact small
      rw [List.singleton_append, readVarint, if_pos lower, same]
      simp
    · have same : (UInt8.ofNat (value % 128 + 128)).toNat = value % 128 + 128 :=
        UInt8.toNat_ofNat_of_lt' (by simp only [UInt8.size]; omega)
      have upper : ¬ UInt8.ofNat (value % 128 + 128) < 128 := by
        rw [UInt8.lt_iff_toNat_lt, same]
        exact Nat.not_lt.mpr (Nat.le_add_left _ _)
      have high : value / 128 < 2 ^ (7 * limit + 1) := by
        rw [Nat.div_lt_iff_lt_mul (by decide)]
        calc value < 2 ^ (7 * (limit + 1) + 1) := fits
          _ = 2 ^ (7 * limit + 1) * 128 := by ring
      have whole : value % 128 + 128 - 128 + 128 * (value / 128) = value := by omega
      rw [List.cons_append, readVarint, if_neg upper, inductionHypothesis high, Option.map_some]
      simp only [same, whole]

theorem readVarint_varint_of_lt
    {value : Nat}
    (rest : List UInt8)
    (fits : value < 2 ^ 64) :
    readVarint varintLimit (varint value ++ rest) = some (value, rest) :=
  readVarint_varint 9 rest fits

theorem length_varint_le
    {value : Nat}
    (limit : Nat)
    (fits : value < 2 ^ (7 * limit + 7)) :
    (varint value).length ≤ limit + 1 := by
  induction limit generalizing value with
  | zero =>
    rw [varint, if_pos (by omega)]
    rfl
  | succ limit inductionHypothesis =>
    rw [varint]
    split_ifs with small
    · exact Nat.le_add_left 1 _
    · have high : value / 128 < 2 ^ (7 * limit + 7) := by
        rw [Nat.div_lt_iff_lt_mul (by decide)]
        calc value < 2 ^ (7 * (limit + 1) + 7) := fits
          _ = 2 ^ (7 * limit + 7) * 128 := by ring
      exact Nat.succ_le_succ (inductionHypothesis high)

theorem varint_ne_nil (value : Nat) : varint value ≠ [] := by
  rw [varint]
  split_ifs <;> exact List.cons_ne_nil _ _

/-- The numbers that a field can have. -/
def IsNumber (number : Nat) : Prop :=
  0 < number ∧ number < 2 ^ 29

instance (number : Nat) : Decidable (IsNumber number) :=
  inferInstanceAs (Decidable (_ ∧ _))

theorem readVarint_key
    {number form : Nat}
    (rest : List UInt8)
    (isNumber : IsNumber number)
    (isForm : form < 8) :
    readVarint varintLimit (key number form ++ rest) = some (number * 8 + form, rest) := by
  obtain ⟨positive, small⟩ := isNumber
  exact readVarint_varint_of_lt rest (by omega)

/-- What a key says about the item that it begins. -/
theorem key_parts
    {number : Nat}
    (form : Nat)
    (isNumber : IsNumber number)
    (isForm : form < 8) :
    ¬(UInt32.size ≤ number * 8 + form ∨ (number * 8 + form) / 8 = 0) ∧
      (number * 8 + form) / 8 = number ∧ (number * 8 + form) % 8 = form := by
  obtain ⟨positive, small⟩ := isNumber
  simp only [UInt32.size]
  omega

theorem readItem_varint
    {number value : Nat}
    (rest : List UInt8)
    (isNumber : IsNumber number)
    (fits : value < 2 ^ 64) :
    readItem (key number 0 ++ varint value ++ rest) =
      some (.field ⟨number, .varint value⟩, rest) := by
  obtain ⟨valid, same, form⟩ := key_parts 0 isNumber (by decide)
  rw [readItem, List.append_assoc, readVarint_key _ isNumber (by decide)]
  dsimp only [Option.bind_eq_bind, Option.bind_some]
  rw [if_neg (by simpa using valid), same, if_pos form, readVarint_varint_of_lt rest fits]
  rfl

theorem readItem_octets
    {number : Nat}
    {content : List UInt8}
    (rest : List UInt8)
    (isNumber : IsNumber number)
    (fits : content.length < 2 ^ 64) :
    readItem (octetsField number content ++ rest) =
      some (.field ⟨number, .octets content⟩, rest) := by
  obtain ⟨valid, same, form⟩ := key_parts 2 isNumber (by decide)
  have taken : takeOctets content.length (content ++ rest) = some (content, rest) := by
    rw [takeOctets, if_pos (by simp), List.take_left, List.drop_left]
  rw [readItem, octetsField, List.append_assoc, List.append_assoc,
    readVarint_key _ isNumber (by decide)]
  dsimp only [Option.bind_eq_bind, Option.bind_some]
  rw [if_neg (by simpa using valid), same, form, if_neg (by decide), if_neg (by decide),
    if_pos rfl, readVarint_varint_of_lt _ fits, Option.bind_some, taken]
  rfl

/-- The octets of a message part of which reading finds exactly these fields, whatever follows. The
lengths of messages have 64 bits. -/
def Holds (octets : List UInt8) (fields : List Field) : Prop :=
  octets.length < 2 ^ 64 → ∀ limit rest,
    readFields limit [] (octets ++ rest) = (readFields limit [] rest).map (fields ++ ·)

namespace Holds

theorem nil : Holds [] [] := by
  intro _ limit rest
  simp

theorem append
    {first second : List UInt8}
    {firstFields secondFields : List Field}
    (firstHolds : Holds first firstFields)
    (secondHolds : Holds second secondFields) :
    Holds (first ++ second) (firstFields ++ secondFields) := by
  intro short limit rest
  rw [List.length_append] at short
  rw [List.append_assoc, firstHolds (by omega), secondHolds (by omega), Option.map_map]
  congr 1
  funext others
  exact (List.append_assoc _ _ _).symm

theorem flatMap
    {α : Type}
    {write : α → List UInt8}
    {field : α → Field}
    (holds : ∀ item, Holds (write item) [field item])
    (items : List α) :
    Holds (items.flatMap write) (items.map field) := by
  induction items with
  | nil => exact nil
  | cons item items inductionHypothesis =>
    rw [List.flatMap_cons, List.map_cons]
    exact (holds item).append inductionHypothesis

/-- An item that is a field adds this field. -/
theorem of_readItem
    {octets : List UInt8}
    {field : Field}
    (nonempty : octets ≠ [])
    (read : octets.length < 2 ^ 64 → ∀ rest,
      readItem (octets ++ rest) = some (.field field, rest)) :
    Holds octets [field] := by
  intro short limit rest
  have present : (octets ++ rest).isEmpty = false := by
    rw [List.isEmpty_eq_false_iff]
    exact List.append_ne_nil_of_left_ne_nil nonempty rest
  have shorter : rest.length < (octets ++ rest).length := by
    rw [List.length_append]
    exact Nat.lt_add_of_pos_left (List.length_pos_iff.mpr nonempty)
  rw [readFields, present, read short rest]
  dsimp only
  rw [if_pos shorter]
  rfl

/-- A whole message has the fields that its octets hold. -/
theorem readFields
    {octets : List UInt8}
    {fields : List Field}
    (holds : Holds octets fields)
    (short : octets.length < 2 ^ 64)
    (limit : Nat) :
    readFields limit [] octets = some fields := by
  have read := holds short limit []
  rw [List.append_nil] at read
  rw [read, Wire.readFields]
  simp

/-- A message of any number of short parts has the fields of the parts. -/
theorem readFields_flatMap
    {α : Type}
    {write : α → List UInt8}
    {field : α → Field}
    (holds : ∀ item, Holds (write item) [field item])
    (short : ∀ item, (write item).length < 2 ^ 64)
    (limit : Nat)
    (items : List α) :
    Wire.readFields limit [] (items.flatMap write) = some (items.map field) := by
  induction items with
  | nil => exact nil.readFields (by decide) limit
  | cons item items inductionHypothesis =>
    rw [List.flatMap_cons, holds item (short item), inductionHypothesis]
    rfl

theorem unique
    {octets : List UInt8}
    {fields others : List Field}
    (holds : Holds octets fields)
    (holdsOthers : Holds octets others)
    (short : octets.length < 2 ^ 64) :
    fields = others := by
  have same := holds.readFields short 0
  rw [holdsOthers.readFields short] at same
  exact (Option.some.inj same).symm

end Holds

theorem holds_varint
    {number value : Nat}
    (isNumber : IsNumber number)
    (fits : value < 2 ^ 64) :
    Holds (key number 0 ++ varint value) [⟨number, .varint value⟩] :=
  .of_readItem (List.append_ne_nil_of_left_ne_nil (varint_ne_nil _) _) fun _ rest =>
    readItem_varint rest isNumber fits

/-- The field of a text. -/
def textItemOf (number : Nat) (text : String) : Field :=
  ⟨number, .octets (Text.octets text)⟩

/-- The fields of a text that is not written if it is empty. -/
def textFieldsOf (number : Nat) (text : String) : List Field :=
  if text = "" then [] else [textItemOf number text]

/-- The fields of octets. -/
def octetsFieldsOf (number : Nat) (content : List UInt8) : List Field :=
  [⟨number, .octets content⟩]

/-- The fields of a truth value. -/
def flagFieldsOf (number : Nat) (flag : Bool) : List Field :=
  if flag then [⟨number, .varint 1⟩] else []

/-- The fields of a number. -/
def numberFieldsOf (number value : Nat) : List Field :=
  if value = 0 then [] else [⟨number, .varint value⟩]

/-- The field of an entry of a map. -/
def entryOf (number : Nat) (entry : String × String) : Field :=
  ⟨number, .octets (textField 1 entry.1 ++ textField 2 entry.2)⟩

theorem number_of_mem_textFieldsOf
    {number : Nat}
    {text : String}
    {field : Field}
    (present : field ∈ textFieldsOf number text) :
    field.number = number := by
  unfold textFieldsOf at present
  split_ifs at present
  · exact absurd present List.not_mem_nil
  · rw [List.mem_singleton.mp present]
    rfl

section Parts

variable {number : Nat} (isNumber : IsNumber number)

include isNumber

theorem holds_octetsField (content : List UInt8) :
    Holds (octetsField number content) (octetsFieldsOf number content) := by
  refine .of_readItem ?_ fun short rest => readItem_octets rest isNumber ?_
  · rw [octetsField, List.append_assoc]
    exact List.append_ne_nil_of_left_ne_nil (varint_ne_nil _) _
  · rw [octetsField, List.length_append] at short
    omega

theorem holds_textItem (text : String) :
    Holds (textItem number text) [textItemOf number text] :=
  holds_octetsField isNumber _

theorem holds_textField (text : String) :
    Holds (textField number text) (textFieldsOf number text) := by
  unfold textField textFieldsOf
  split_ifs with empty
  · exact .nil
  · exact holds_textItem isNumber text

theorem holds_flagField (flag : Bool) :
    Holds (flagField number flag) (flagFieldsOf number flag) := by
  unfold flagField flagFieldsOf
  split_ifs with set
  · exact holds_varint isNumber (by decide)
  · exact .nil

theorem holds_numberField {value : Nat} (fits : value < 2 ^ 64) :
    Holds (numberField number value) (numberFieldsOf number value) := by
  unfold numberField numberFieldsOf
  split_ifs with zero
  · exact .nil
  · exact holds_varint isNumber fits

theorem holds_mapField (entries : List (String × String)) :
    Holds (mapField number entries) (entries.map (entryOf number)) :=
  .flatMap (fun _ => holds_octetsField isNumber _) entries

end Parts

section Values

variable {α : Type} {number : Nat} (read : Value → Option α)

@[simp]
theorem valuesOf_append (first second : List Field) :
    valuesOf number read (first ++ second) =
      (valuesOf number read first).bind fun values =>
        (valuesOf number read second).map (values ++ ·) := by
  unfold valuesOf
  rw [List.filter_append, List.mapM_append]
  cases (first.filter (·.number = number)).mapM fun field => read field.value with
  | none => rfl
  | some values =>
    cases (second.filter (·.number = number)).mapM fun field => read field.value <;> rfl

/-- Fields of other numbers give no values. -/
theorem valuesOf_of_differ
    {fields : List Field}
    (differ : ∀ field ∈ fields, field.number ≠ number) :
    valuesOf number read fields = some [] := by
  rw [valuesOf, List.filter_eq_nil_iff.mpr (by simpa using differ)]
  rfl

/-- Fields made of items give what is read from each. -/
theorem valuesOf_map_of_read
    {β : Type}
    {field : β → Field}
    {value : β → α}
    {items : List β}
    (same : ∀ item, (field item).number = number)
    (reads : ∀ item ∈ items, read (field item).value = some (value item)) :
    valuesOf number read (items.map field) = some (items.map value) := by
  unfold valuesOf
  rw [List.filter_eq_self.mpr (by simp [same])]
  induction items with
  | nil => rfl
  | cons item items inductionHypothesis =>
    rw [List.forall_mem_cons] at reads
    rw [List.map_cons, List.mapM_cons, reads.1, inductionHypothesis reads.2]
    rfl

/-- Fields made of items that are read back from them give the items. -/
theorem valuesOf_map
    {field : α → Field}
    {items : List α}
    (same : ∀ item, (field item).number = number)
    (readBack : ∀ item ∈ items, read (field item).value = some item) :
    valuesOf number read (items.map field) = some items := by
  simpa using valuesOf_map_of_read read same readBack

theorem valuesOf_singleton (value : Value) :
    valuesOf number read [⟨number, value⟩] = (read value).map ([·]) := by
  rw [valuesOf, List.filter_cons_of_pos (by simp), List.filter_nil, List.mapM_cons, List.mapM_nil]
  cases read value <;> rfl

variable {other : Nat} (differ : other ≠ number)

include differ

theorem valuesOf_singleton_of_ne (value : Value) :
    valuesOf number read [⟨other, value⟩] = some [] :=
  valuesOf_of_differ read (by simpa using differ)

theorem valuesOf_map_of_ne
    {β : Type}
    {field : β → Field}
    (same : ∀ item, (field item).number = other)
    (items : List β) :
    valuesOf number read (items.map field) = some [] := by
  refine valuesOf_of_differ read fun one present => ?_
  obtain ⟨item, -, rfl⟩ := List.mem_map.mp present
  rw [same]
  exact differ

@[simp]
theorem valuesOf_octetsFieldsOf_of_ne (content : List UInt8) :
    valuesOf number read (octetsFieldsOf other content) = some [] :=
  valuesOf_singleton_of_ne read differ _

@[simp]
theorem valuesOf_textFieldsOf_of_ne (text : String) :
    valuesOf number read (textFieldsOf other text) = some [] := by
  unfold textFieldsOf
  split_ifs
  · rfl
  · exact valuesOf_singleton_of_ne read differ _

@[simp]
theorem valuesOf_flagFieldsOf_of_ne (flag : Bool) :
    valuesOf number read (flagFieldsOf other flag) = some [] := by
  unfold flagFieldsOf
  split_ifs
  · exact valuesOf_singleton_of_ne read differ _
  · rfl

@[simp]
theorem valuesOf_entries_of_ne (entries : List (String × String)) :
    valuesOf number read (entries.map (entryOf other)) = some [] :=
  valuesOf_map_of_ne read differ (fun _ => rfl) entries

end Values

theorem valuesOf_octetsFieldsOf
    {α : Type}
    (number : Nat)
    (read : Value → Option α)
    (content : List UInt8) :
    valuesOf number read (octetsFieldsOf number content) =
      (read (.octets content)).map ([·]) :=
  valuesOf_singleton read _

theorem text?_octets (text : String) : text? (.octets (Text.octets text)) = some text :=
  Text.ofOctets?_octets text

theorem valuesOf_textFieldsOf (number : Nat) (text : String) :
    valuesOf number text? (textFieldsOf number text) =
      some (if text = "" then [] else [text]) := by
  unfold textFieldsOf textItemOf
  split_ifs
  · rfl
  · rw [valuesOf_singleton, text?_octets, Option.map_some]

theorem valuesOf_flagFieldsOf (number : Nat) (flag : Bool) :
    valuesOf number flag? (flagFieldsOf number flag) = some (if flag then [true] else []) := by
  unfold flagFieldsOf
  split_ifs
  · exact valuesOf_singleton _ _
  · rfl

/-- A text that is not written if it is empty is empty if it is not there. -/
theorem lastOf_text
    {number : Nat}
    {text : String}
    {fields : List Field}
    (values : valuesOf number text? fields = some (if text = "" then [] else [text])) :
    lastOf number text? "" fields = some text := by
  rw [lastOf, values]
  split_ifs with empty
  · rw [empty]
    rfl
  · rfl

theorem lastOf_flag
    {number : Nat}
    {flag : Bool}
    {fields : List Field}
    (values : valuesOf number flag? fields = some (if flag then [true] else [])) :
    lastOf number flag? false fields = some flag := by
  rw [lastOf, values]
  cases flag <;> rfl

theorem lastOf_number
    (number : Nat)
    {value : Nat}
    (present : value ≠ 0) :
    lastOf number number? 0 (numberFieldsOf number value) = number? (.varint value) := by
  rw [numberFieldsOf, if_neg present, lastOf, valuesOf_singleton]
  cases number? (.varint value) <;> rfl

theorem holds_entry (entry : String × String) :
    Holds (textField 1 entry.1 ++ textField 2 entry.2)
      (textFieldsOf 1 entry.1 ++ textFieldsOf 2 entry.2) :=
  (holds_textField (by decide) _).append (holds_textField (by decide) _)

/-- An entry of a map is read back, although empty texts are not written. -/
theorem entry?_entryOf
    (depth number : Nat)
    {entry : String × String}
    (short : (textField 1 entry.1 ++ textField 2 entry.2).length < 2 ^ 64) :
    entry? depth (entryOf number entry).value = some entry := by
  have opened : message? depth (entryOf number entry).value = some _ :=
    (holds_entry entry).readFields short _
  have name : lastOf 1 text? "" (textFieldsOf 1 entry.1 ++ textFieldsOf 2 entry.2) =
      some entry.1 := by
    apply lastOf_text
    simp [valuesOf_textFieldsOf]
  have value : lastOf 2 text? "" (textFieldsOf 1 entry.1 ++ textFieldsOf 2 entry.2) =
      some entry.2 := by
    apply lastOf_text
    simp [valuesOf_textFieldsOf]
  rw [Wire.entry?, opened]
  dsimp only [Option.bind_eq_bind, Option.bind_some]
  rw [name, value]
  rfl

/-- The entries of a map are read back in the order in which they were written. -/
theorem valuesOf_entries
    (depth : Nat)
    {number : Nat}
    {entries : List (String × String)}
    (short : (mapField number entries).length < 2 ^ 64) :
    valuesOf number (Wire.entry? depth) (entries.map (entryOf number)) = some entries := by
  refine valuesOf_map _ (fun _ => rfl) fun entry present => entry?_entryOf depth number ?_
  have part : List.Sublist ([entry].flatMap _) (mapField number entries) :=
    (List.singleton_sublist.mpr present).flatMap _
  have shorter := part.length_le
  rw [List.flatMap_singleton, octetsField, List.length_append] at shorter
  omega

end VolumeAttacher.Wire
