import VolumeAttacher.Json
import VolumeAttacher.Text.Hex

/-!
# Writing JSON

The compact text of a value: no blanks, and in strings only what must be escaped.
-/

namespace VolumeAttacher
namespace Json

/-- The characters that stand for one character of a string. -/
def escape (character : Char) : List Char :=
  if character = '"' then ['\\', '"']
  else if character = '\\' then ['\\', '\\']
  else if character = '\x08' then ['\\', 'b']
  else if character = '\x0c' then ['\\', 'f']
  else if character = '\n' then ['\\', 'n']
  else if character = '\r' then ['\\', 'r']
  else if character = '\t' then ['\\', 't']
  else if character.toNat < 32 then
    ['\\', 'u', '0', '0', Text.hexDigit (character.toNat / 16),
      Text.hexDigit (character.toNat % 16)]
  else [character]

/-- A string between its quotes. -/
def quote (value : String) : List Char :=
  '"' :: value.toList.flatMap escape ++ ['"']

/-- The numeral of a whole number. -/
def wholeNumeral (value : Int) : List Char :=
  if value < 0 then '-' :: Nat.toDigits 10 (-value).toNat else Nat.toDigits 10 value.toNat

mutual

/-- The characters of a value. -/
def print : Json → List Char
  | .null => ['n', 'u', 'l', 'l']
  | .boolean true => ['t', 'r', 'u', 'e']
  | .boolean false => ['f', 'a', 'l', 's', 'e']
  | .whole value => wholeNumeral value
  | .decimal mantissa exponent => wholeNumeral mantissa ++ 'e' :: wholeNumeral exponent
  | .text value => quote value
  | .array items => '[' :: printItems items ++ [']']
  | .object members => '\x7b' :: printMembers members ++ ['\x7d']

/-- The items of an array with the commas between them. -/
def printItems : List Json → List Char
  | [] => []
  | [item] => print item
  | item :: rest => print item ++ ',' :: printItems rest

/-- The members of an object with the commas between them. -/
def printMembers : List (String × Json) → List Char
  | [] => []
  | [(name, value)] => quote name ++ ':' :: print value
  | (name, value) :: rest => quote name ++ ':' :: print value ++ ',' :: printMembers rest

end

/-- The compact text of a value. -/
def render (value : Json) : String :=
  String.ofList (print value)

end Json

end VolumeAttacher
