import VolumeAttacher.Text.Unprintable

/-!
# Quoted text

How messages show a text that came from outside: between double quotes, with a backslash before
what would end or break the line, and code points for what has no visible shape.
-/

namespace VolumeAttacher.Text

/-- The hexadecimal numeral of a number, in lower case and without leading zeros. -/
def hexadecimal (value : Nat) : String :=
  String.ofList (Nat.toDigits 16 value)

/-- The written form of one character inside quotes. -/
def escapeCharacter (character : Char) : String :=
  if character = '\x00' then "\\0"
  else if character = '\t' then "\\t"
  else if character = '\n' then "\\n"
  else if character = '\r' then "\\r"
  else if character = '"' then "\\\""
  else if character = '\\' then "\\\\"
  else if isUnprintable character then "\\u\x7b" ++ hexadecimal character.toNat ++ "\x7d"
  else character.toString

/-- A text between double quotes. -/
def quoted (text : String) : String :=
  "\"" ++ String.join (text.toList.map escapeCharacter) ++ "\""

/-- Texts in quotes, between brackets and separated by commas. -/
def quotedList (texts : List String) : String :=
  "[" ++ ", ".intercalate (texts.map quoted) ++ "]"

end VolumeAttacher.Text
