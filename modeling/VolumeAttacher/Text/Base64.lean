/-!
# Base64

The standard alphabet with mandatory padding. Reading accepts exactly what writing produces: whole
groups of four, and no stray bits before the padding.
-/

namespace VolumeAttacher.Text

/-- The value of a character of the alphabet. -/
def base64Value? (character : Char) : Option Nat :=
  if 'A' ≤ character && character ≤ 'Z' then some (character.toNat - 65)
  else if 'a' ≤ character && character ≤ 'z' then some (character.toNat - 71)
  else if '0' ≤ character && character ≤ '9' then some (character.toNat + 4)
  else if character = '+' then some 62
  else if character = '/' then some 63
  else none

/-- The octets that a text stands for. -/
def ofBase64? : List Char → Option (List UInt8)
  | [] => some []
  | [first, second, '=', '='] => do
    let a ← base64Value? first
    let b ← base64Value? second
    if b % 16 = 0 then some [UInt8.ofNat (a * 4 + b / 16)] else none
  | [first, second, third, '='] => do
    let a ← base64Value? first
    let b ← base64Value? second
    let c ← base64Value? third
    if c % 4 = 0 then
      some [UInt8.ofNat (a * 4 + b / 16), UInt8.ofNat (b % 16 * 16 + c / 4)]
    else none
  | first :: second :: third :: fourth :: rest => do
    let a ← base64Value? first
    let b ← base64Value? second
    let c ← base64Value? third
    let d ← base64Value? fourth
    let others ← ofBase64? rest
    some (UInt8.ofNat (a * 4 + b / 16) :: UInt8.ofNat (b % 16 * 16 + c / 4) ::
      UInt8.ofNat (c % 4 * 64 + d) :: others)
  | _ => none

end VolumeAttacher.Text
