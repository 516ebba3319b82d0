import Lifecycle.Text.Printable

/-!
# Quoted text

How log records show the texts that programs pass in: between double quotes, with a backslash before
quotes and backslashes, short forms for the common control characters, and the code point in braces
for every other character without a visible form.
-/

namespace Lifecycle.Text

/-- The lower-case hexadecimal digits of a number. -/
def hexadecimal (number : Nat) : String := String.ofList (Nat.toDigits 16 number)

/-- The form of one character between the quotes. -/
def quotedCharacter (character : Char) : String :=
  if character = '"' then "\\\""
  else if character = '\\' then "\\\\"
  else if character = '\n' then "\\n"
  else if character = '\r' then "\\r"
  else if character = '\t' then "\\t"
  else if character.toNat = 0 then "\\0"
  else if isPrintable character then String.singleton character
  else "\\u\x7b" ++ hexadecimal character.toNat ++ "\x7d"

/-- A text between quotes. -/
def quoted (text : String) : String :=
  "\"" ++ String.join (text.toList.map quotedCharacter) ++ "\""

/-- Several quoted texts, separated by commas, between square brackets. -/
def quotedList (texts : List String) : String :=
  "[" ++ ", ".intercalate (texts.map quoted) ++ "]"

end Lifecycle.Text
