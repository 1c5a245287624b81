/-!
# JSON values

The values of RFC 8259. A number written without a fraction and an exponent is a whole number; any
other is kept as a decimal. The members of an object stay in order.
-/

namespace VolumeAttacher

/-- A JSON value. -/
inductive Json where
  | null
  | boolean (value : Bool)
  | whole (value : Int)
  | decimal (mantissa exponent : Int)
  | text (value : String)
  | array (items : List Json)
  | object (members : List (String × Json))
  deriving Inhabited

namespace Json

/-- The last member of a name. -/
def lookup (name : String) : List (String × Json) → Option Json
  | [] => none
  | (key, value) :: rest =>
    match lookup name rest with
    | some found => some found
    | none => if key = name then some value else none

/-- A member of an object that is there and not null. -/
def member? (value : Json) (name : String) : Option Json :=
  match value with
  | .object members =>
    match lookup name members with
    | some .null => none
    | found => found
  | _ => none

/-- An object or null, or a value that can be neither. -/
def isObject : Json → Bool
  | .object _ => true
  | _ => false

def text? : Json → Option String
  | .text value => some value
  | _ => none

def boolean? : Json → Option Bool
  | .boolean value => some value
  | _ => none

def whole? : Json → Option Int
  | .whole value => some value
  | _ => none

def array? : Json → Option (List Json)
  | .array items => some items
  | _ => none

def object? : Json → Option (List (String × Json))
  | .object members => some members
  | _ => none

/-- A whole number that fits in 32 bits with a sign. -/
def int32? : Json → Option Int
  | .whole value => if -2147483648 ≤ value && value ≤ 2147483647 then some value else none
  | _ => none

/-- A map from texts to texts, sorted by key, the last member of a name winning. -/
abbrev TextMap := List (String × String)

/-- A map with one more entry, in the order of the keys. -/
def TextMap.insert (key value : String) : TextMap → TextMap
  | [] => [(key, value)]
  | (first, old) :: rest =>
    if key = first then (key, value) :: rest
    else if key < first then (key, value) :: (first, old) :: rest
    else (first, old) :: TextMap.insert key value rest

/-- The map of a list of entries, the last of a key winning. -/
def TextMap.ofList (entries : List (String × String)) : TextMap :=
  entries.foldl (fun map entry => map.insert entry.1 entry.2) []

/-- A member whose value is a text. -/
def textEntry? (member : String × Json) : Option (String × String) :=
  member.2.text?.map fun value => (member.1, value)

/-- The text map of an object whose members are all texts. -/
def textMap? : Json → Option TextMap
  | .object members => (members.mapM textEntry?).map TextMap.ofList
  | _ => none

/-- The name of a choice that carries nothing: a text, or the only member of an object if it is
null. -/
def choice? : Json → Option String
  | .text name => some name
  | .object [(name, .null)] => some name
  | _ => none

/-- A list of texts. -/
def texts? : Json → Option (List String)
  | .array items => items.mapM text?
  | _ => none

/-- The object of a text map. -/
def ofTextMap (map : TextMap) : Json :=
  .object (map.map fun entry => (entry.1, .text entry.2))

/-- The array of a list of texts. -/
def ofTexts (texts : List String) : Json :=
  .array (texts.map .text)

/-- An optional member that must be read if it is there. -/
def optional {α : Type} (value : Json) (name : String) (read : Json → Option α) :
    Option (Option α) :=
  match value.member? name with
  | none => some none
  | some found => (read found).map some

end Json

end VolumeAttacher
