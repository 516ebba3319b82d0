/-!
# Hexadecimal text

Bytes as pairs of lower-case hexadecimal digits, and back.
-/

namespace Lifecycle.Text

/-- The lower-case hexadecimal digit of a number below sixteen. -/
def hexDigit (value : Nat) : Char := Nat.digitChar value

/-- The value of a hexadecimal digit of either case. -/
def hexValue? (digit : Char) : Option Nat :=
  if '0' ≤ digit ∧ digit ≤ '9' then some (digit.toNat - '0'.toNat)
  else if 'a' ≤ digit ∧ digit ≤ 'f' then some (digit.toNat - 'a'.toNat + 10)
  else if 'A' ≤ digit ∧ digit ≤ 'F' then some (digit.toNat - 'A'.toNat + 10)
  else none

/-- The number that hexadecimal digits denote. -/
def hexNumber? (digits : List Char) : Option Nat :=
  digits.foldlM (fun value digit => (hexValue? digit).map (value * 16 + ·)) 0

/-- The two digits of a byte. -/
def hexOfByte (byte : UInt8) : List Char :=
  [hexDigit (byte.toNat / 16), hexDigit (byte.toNat % 16)]

/-- Bytes as a text of two digits each. -/
def hexOfBytes (bytes : List UInt8) : String := String.ofList (bytes.flatMap hexOfByte)

/-- The bytes that pairs of digits denote. -/
def bytesOfHex? : List Char → Option (List UInt8)
  | [] => some []
  | [_] => none
  | high :: low :: rest => do
    let upper ← hexValue? high
    let lower ← hexValue? low
    let bytes ← bytesOfHex? rest
    return UInt8.ofNat (upper * 16 + lower) :: bytes

end Lifecycle.Text
