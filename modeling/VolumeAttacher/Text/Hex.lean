/-!
# Hexadecimal octets

Octets as two digits each, small letters.
-/

namespace VolumeAttacher.Text

/-- The digit of a number below sixteen. -/
def hexDigit (value : Nat) : Char := "0123456789abcdef".toList.getD value '0'

/-- The number of a digit. -/
def hexDigitValue? (digit : Char) : Option Nat :=
  if digit.isDigit then some (digit.toNat - '0'.toNat)
  else if 'a' ≤ digit && digit ≤ 'f' then some (digit.toNat - 'a'.toNat + 10)
  else if 'A' ≤ digit && digit ≤ 'F' then some (digit.toNat - 'A'.toNat + 10)
  else none

/-- The digits of octets. -/
def toHex (octets : List UInt8) : String :=
  String.ofList (octets.flatMap fun octet =>
    [hexDigit (octet.toNat / 16), hexDigit (octet.toNat % 16)])

/-- The octets of a list of digits. -/
def ofHex? : List Char → Option (List UInt8)
  | [] => some []
  | first :: second :: rest => do
    let high ← hexDigitValue? first
    let low ← hexDigitValue? second
    return UInt8.ofNat (high * 16 + low) :: (← ofHex? rest)
  | _ => none

end VolumeAttacher.Text
