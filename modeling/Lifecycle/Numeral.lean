/-!
# Decimal numerals

Decimal text of the 32-bit integers that programs exchange, and the value of the digits at the head
of a text. Reading never fails: it stops at the first character that is not an ASCII digit, and a
numeral outside the 32-bit range is taken modulo `2 ^ 32`.
-/

namespace Lifecycle.Numeral

/-- The decimal text of a number, with a minus sign in front of a negative one. -/
def ofInt32 (value : Int32) : String := toString value.toInt

/-- The value of an ASCII digit. -/
def digitValue (digit : Char) : Nat := digit.toNat - '0'.toNat

/-- The digits at the head of a text. -/
def leadingDigits (text : String) : List Char := text.toList.takeWhile Char.isDigit

/-- The number that the leading digits of a text denote; each step wraps at 32 bits. -/
def toInt32 (text : String) : Int32 :=
  (leadingDigits text).foldl (fun value digit => value * 10 + Int32.ofNat (digitValue digit)) 0

/-- The natural number that a text of ASCII digits denotes; `none` for any other text. -/
def toNat? (text : List Char) : Option Nat :=
  if text.isEmpty || !text.all Char.isDigit then none
  else some (text.foldl (fun value digit => value * 10 + digitValue digit) 0)

end Lifecycle.Numeral
