import Lifecycle.Text.Hex

/-!
# JSON text

Compact JSON, written piece by piece: no blanks, members in the order given. In a string only what
JSON does not allow there is escaped, control characters by their short form where they have one.
-/

namespace Lifecycle.Json

/-- The form of one character inside a string. -/
def escaped (character : Char) : String :=
  if character = '"' then "\\\""
  else if character = '\\' then "\\\\"
  else if character = '\n' then "\\n"
  else if character = '\r' then "\\r"
  else if character = '\t' then "\\t"
  else if character.toNat = 0x08 then "\\b"
  else if character.toNat = 0x0C then "\\f"
  else if character.toNat < 0x20 then
    "\\u00" ++ String.ofList (Text.hexOfByte (UInt8.ofNat character.toNat))
  else String.singleton character

/-- A string. -/
def string (text : String) : String := "\"" ++ String.join (text.toList.map escaped) ++ "\""

/-- A number that is not negative. -/
def natural (value : Nat) : String := toString value

/-- A value that may be missing. -/
def nullable {α : Type} (write : α → String) : Option α → String
  | none => "null"
  | some value => write value

/-- An array of values that are already written. -/
def array (items : List String) : String := "[" ++ ",".intercalate items ++ "]"

/-- An object whose values are already written. -/
def object (members : List (String × String)) : String :=
  "\x7b" ++ ",".intercalate (members.map fun member => string member.1 ++ ":" ++ member.2) ++ "\x7d"

end Lifecycle.Json
