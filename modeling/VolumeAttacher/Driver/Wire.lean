import VolumeAttacher.Text.Utf8

/-!
# The wire format of driver calls

Messages are sequences of numbered fields. The number and the form of a field come first, then its
value: a varint, four or eight octets, octets after their count, or a group of fields between two
marks. A field that has its default value is not written. Reading keeps the fields in order; groups
are skipped, and so are fields of numbers that a message does not have.
-/

namespace VolumeAttacher.Wire

/-- A number in groups of seven bits, the lowest first; all octets but the last have the high bit
set. -/
def varint (value : Nat) : List UInt8 :=
  if value < 128 then [UInt8.ofNat value]
  else UInt8.ofNat (value % 128 + 128) :: varint (value / 128)

/-- Read a varint of at most `limit` octets; the last that is allowed holds a single bit. -/
def readVarint : Nat → List UInt8 → Option (Nat × List UInt8)
  | 0, _ => none
  | _ + 1, [] => none
  | limit + 1, octet :: rest =>
    if octet < 128 then
      if limit = 0 && 2 ≤ octet then none else some (octet.toNat, rest)
    else
      (readVarint limit rest).map fun (high, rest) => (octet.toNat - 128 + 128 * high, rest)

/-- The most octets that a varint has. -/
def varintLimit : Nat := 10

/-- The value of a field. -/
inductive Value where
  | varint (value : Nat)
  | fixed64
  | octets (content : List UInt8)
  | group
  | fixed32
  deriving DecidableEq

/-- A numbered field. -/
structure Field where
  number : Nat
  value : Value
  deriving DecidableEq

/-- One item of a message. -/
inductive Item where
  | field (field : Field)
  | openGroup (number : Nat)
  | closeGroup (number : Nat)

/-- A number of octets and the rest, if there are as many. -/
def takeOctets (count : Nat) (octets : List UInt8) : Option (List UInt8 × List UInt8) :=
  if count ≤ octets.length then some (octets.take count, octets.drop count) else none

/-- The first item of a message. -/
def readItem (octets : List UInt8) : Option (Item × List UInt8) := do
  let (key, rest) ← readVarint varintLimit octets
  let number := key / 8
  if UInt32.size ≤ key || number = 0 then none
  else if key % 8 = 0 then do
    let (value, rest) ← readVarint varintLimit rest
    return (.field ⟨number, .varint value⟩, rest)
  else if key % 8 = 1 then do
    let (_, rest) ← takeOctets 8 rest
    return (.field ⟨number, .fixed64⟩, rest)
  else if key % 8 = 2 then do
    let (count, rest) ← readVarint varintLimit rest
    let (content, rest) ← takeOctets count rest
    return (.field ⟨number, .octets content⟩, rest)
  else if key % 8 = 3 then return (.openGroup number, rest)
  else if key % 8 = 4 then return (.closeGroup number, rest)
  else if key % 8 = 5 then do
    let (_, rest) ← takeOctets 4 rest
    return (.field ⟨number, .fixed32⟩, rest)
  else none

/-- How deep messages and groups may be nested. -/
def depthLimit : Nat := 100

/-- The fields of a message. `groups` are the numbers of the groups that are open, innermost first,
whose fields are skipped. -/
def readFields (limit : Nat) (groups : List Nat) (octets : List UInt8) : Option (List Field) :=
  if octets.isEmpty then (if groups.isEmpty then some [] else none)
  else
    match readItem octets with
    | none => none
    | some (item, rest) =>
      if rest.length < octets.length then
        match item with
        | .closeGroup number =>
          match groups with
          | [] => none
          | innermost :: others =>
            if innermost = number then readFields limit others rest else none
        | .openGroup number =>
          if groups.length < limit then
            if groups.isEmpty then
              (readFields limit [number] rest).map (⟨number, .group⟩ :: ·)
            else readFields limit (number :: groups) rest
          else none
        | .field field =>
          if groups.isEmpty then (readFields limit [] rest).map (field :: ·)
          else if groups.length < limit then readFields limit groups rest
          else none
      else none
termination_by octets.length

/-- The fields of a whole message. -/
def fields (octets : List UInt8) : Option (List Field) :=
  readFields depthLimit [] octets

/-- The values of all fields of a number, each of which must be readable. -/
def valuesOf {α : Type} (number : Nat) (read : Value → Option α) (fields : List Field) :
    Option (List α) :=
  (fields.filter (·.number = number)).mapM fun field => read field.value

/-- The last value of a number, or a default. -/
def lastOf {α : Type} (number : Nat) (read : Value → Option α) (default : α)
    (fields : List Field) : Option α :=
  (valuesOf number read fields).map fun values => values.getLast?.getD default

/-- A text. -/
def text? : Value → Option String
  | .octets content => Text.ofOctets? content
  | _ => none

/-- A truth value. -/
def flag? : Value → Option Bool
  | .varint value => some (value != 0)
  | _ => none

/-- A number of 32 bits with a sign, to which longer ones are cut. -/
def number? : Value → Option Int
  | .varint value => some (Int.bmod value UInt32.size)
  | _ => none

/-- A message inside of a message, `depth` levels below the outermost. -/
def message? (depth : Nat) : Value → Option (List Field)
  | .octets content => readFields (depthLimit - depth) [] content
  | _ => none

/-- An entry of a map: a message of a key and a value. -/
def entry? (depth : Nat) (value : Value) : Option (String × String) := do
  let fields ← message? depth value
  return (← lastOf 1 text? "" fields, ← lastOf 2 text? "" fields)

/-- The first octets of a field: its number and its form. -/
def key (number form : Nat) : List UInt8 := varint (number * 8 + form)

/-- A field of octets, which may be a message. -/
def octetsField (number : Nat) (content : List UInt8) : List UInt8 :=
  key number 2 ++ varint content.length ++ content

/-- A text, even if it is empty. -/
def textItem (number : Nat) (text : String) : List UInt8 :=
  octetsField number (Text.octets text)

/-- A text, unless it is empty. -/
def textField (number : Nat) (text : String) : List UInt8 :=
  if text = "" then [] else textItem number text

/-- A truth value, unless it is false. -/
def flagField (number : Nat) (flag : Bool) : List UInt8 :=
  if flag then key number 0 ++ varint 1 else []

/-- A number, unless it is zero. -/
def numberField (number value : Nat) : List UInt8 :=
  if value = 0 then [] else key number 0 ++ varint value

/-- The entries of a map, in the order of the list. -/
def mapField (number : Nat) (entries : List (String × String)) : List UInt8 :=
  entries.flatMap fun entry =>
    octetsField number (textField 1 entry.1 ++ textField 2 entry.2)

end VolumeAttacher.Wire
