import VolumeAttacher.Fault
import VolumeAttacher.Text.Hex

/-!
# Endpoints

The address at which health and metrics are served: an address of the internet, of the fourth or
sixth version, a colon, and the number of a socket there. A number alone, after its colon, stands for
all addresses of the machine.
-/

namespace VolumeAttacher
namespace Endpoint

/-- A decimal number of at most `places` digits, below a bound, and the text after it. Leading zeros
may be allowed. -/
def readDecimal (places bound : Nat) (zeros : Bool) (text : List Char) :
    Option (Nat × List Char) :=
  let digits := text.takeWhile Char.isDigit
  let value := Nat.ofDigitChars 10 digits 0
  if digits.isEmpty || places < digits.length || bound ≤ value then none
  else if !zeros && 1 < digits.length && digits.head? = some '0' then none
  else some (value, text.drop digits.length)

/-- The text after a given character. -/
def skip (mark : Char) : List Char → Option (List Char)
  | [] => none
  | first :: rest => if first = mark then some rest else none

/-- One of the four numbers of an address of the fourth version. -/
def readByte (text : List Char) : Option (List Char) :=
  if 3 < (text.takeWhile Char.isDigit).length then none
  else (readDecimal 3 256 false text).map Prod.snd

/-- The text after an address of the fourth version. -/
def readFour (text : List Char) : Option (List Char) := do
  let text ← readByte (← skip '.' (← readByte text))
  readByte (← skip '.' (← readByte (← skip '.' text)))

/-- The text after a group of an address of the sixth version: one to four hexadecimal digits. -/
def readGroup (text : List Char) : Option (List Char) :=
  let digits := text.takeWhile fun digit => (Text.hexDigitValue? digit).isSome
  if digits.isEmpty || 4 < digits.length then none else some (text.drop digits.length)

/-- The text before the next group; only the first group has no colon before it. -/
def beforeGroup (isFirst : Bool) (text : List Char) : Option (List Char) :=
  if isFirst then some text else skip ':' text

/-- Up to a number of groups: how many there are, whether they end in an address of the fourth
version, which counts as two, and the text after them. -/
def readGroups (isFirst : Bool) : Nat → List Char → Nat × Bool × List Char
  | 0, text => (0, false, text)
  | limit + 1, text =>
    match beforeGroup isFirst text with
    | none => (0, false, text)
    | some inner =>
      match (if limit = 0 then none else readFour inner), readGroup inner with
      | some rest, _ => (2, true, rest)
      | none, some rest =>
        let (count, isMixed, rest) := readGroups false limit rest
        (count + 1, isMixed, rest)
      | none, none => (0, false, text)

/-- The text after an address of the sixth version. -/
def readSix (text : List Char) : Option (List Char) :=
  let (head, isMixed, rest) := readGroups true 8 text
  if head = 8 then some rest
  else if isMixed then none
  else match rest with
    | ':' :: ':' :: rest => some (readGroups true (7 - head) rest).2.2
    | _ => none

/-- The text after the zone of an address, which may be missing. -/
def readZone : List Char → Option (List Char)
  | '%' :: rest => (readDecimal rest.length UInt32.size true rest).map Prod.snd
  | text => some text

/-- The text after an address of either version. -/
def readAddress : List Char → Option (List Char)
  | '[' :: rest => do skip ']' (← readZone (← readSix rest))
  | text => readFour text

/-- Whether a text is an address with the number of a socket. -/
def isValid (text : String) : Bool :=
  let read := do
    let rest ← skip ':' (← readAddress text.toList)
    return (← readDecimal rest.length UInt16.size true rest).2
  read = some []

/-- A setting with an address in front if it has a number alone. -/
def complete (setting : String) : String :=
  if setting.startsWith ":" then "0.0.0.0" ++ setting else setting

/-- The endpoint that a setting asks for. -/
def ofSetting (setting : String) : Except Fault String :=
  let text := complete setting
  if isValid text then .ok text else .error (.configuration (.endpoint text))

end Endpoint

end VolumeAttacher
