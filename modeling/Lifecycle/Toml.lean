import Lifecycle.Text.Hex
import Lifecycle.Numeral

/-!
# Flat TOML documents

Reads documents of TOML 1.0 whose lines give a key an integer or a string. That is all a machine's
configuration can hold: tables, dotted keys and other values are turned down like malformed text, and
so is a key that occurs twice.

Readers take the characters that are left and answer with a value and the characters after it.
-/

namespace Lifecycle.Toml

/-- The value of a key. -/
inductive Value where
  | integer (value : Int)
  | string (text : String)
  deriving DecidableEq, Repr

/-- A value that was read, and the characters after it. -/
abbrev Reading (α : Type) := Option (α × List Char)

/-- A blank within a line. -/
def isBlank (character : Char) : Bool := character == ' ' || character == '\t'

/-- The characters after the blanks at the head. -/
def skipBlanks (characters : List Char) : List Char := characters.dropWhile isBlank

/-- Whether a character may stand for itself in a comment or in a string. -/
def isPlain (character : Char) : Bool :=
  character == '\t' || (decide (0x20 ≤ character.toNat) && character.toNat != 0x7F)

/-- Whether a character may stand in a key without quotes. -/
def isBareKey (character : Char) : Bool :=
  character.isAlphanum || character == '_' || character == '-'

/-- The characters after the end of a line at the head. -/
def endOfLine? : List Char → Option (List Char)
  | '\n' :: rest => some rest
  | '\r' :: '\n' :: rest => some rest
  | _ => none

/-- The characters after a comment at the head, if one starts there. -/
def skipComment (characters : List Char) : List Char :=
  match characters with
  | '#' :: rest => rest.dropWhile isPlain
  | _ => characters

/-- The character of a code point, given by its hexadecimal digits. -/
def codePoint? (digits : List Char) : Option Char := do
  let code ← Text.hexNumber? digits
  if code.isValidChar then some (Char.ofNat code) else none

/-- Puts a character in front of a text that was read. -/
def prepend (character : Char) (reading : Reading (List Char)) : Reading (List Char) :=
  reading.map fun (text, rest) => (character :: text, rest)

/-- Puts the character of an escape in front of a text that was read, if there is such an escape. -/
def prependEscape (character : Option Char) (reading : Reading (List Char)) :
    Reading (List Char) :=
  character.bind (prepend · reading)

/-- The character that a one-letter escape stands for. -/
def shortEscape? : Char → Option Char
  | 'b' => some '\x08'
  | 't' => some '\t'
  | 'n' => some '\n'
  | 'f' => some '\x0c'
  | 'r' => some '\r'
  | '"' => some '"'
  | '\\' => some '\\'
  | _ => none

/-- Reads a string between double quotes, after the opening one. -/
def basicString : List Char → Reading (List Char)
  | [] => none
  | '"' :: rest => some ([], rest)
  | '\\' :: 'u' :: a :: b :: c :: d :: rest =>
    prependEscape (codePoint? [a, b, c, d]) (basicString rest)
  | '\\' :: 'U' :: a :: b :: c :: d :: e :: f :: g :: h :: rest =>
    prependEscape (codePoint? [a, b, c, d, e, f, g, h]) (basicString rest)
  | '\\' :: letter :: rest => prependEscape (shortEscape? letter) (basicString rest)
  | character :: rest => if isPlain character then prepend character (basicString rest) else none

/-- Reads a string between single quotes, after the opening one. -/
def literalString : List Char → Reading (List Char)
  | [] => none
  | '\'' :: rest => some ([], rest)
  | character :: rest => if isPlain character then prepend character (literalString rest) else none

/-- Whether nothing but blanks stands before the end of the line. -/
def lineIsBlank (characters : List Char) : Bool := (endOfLine? (skipBlanks characters)).isSome

/--
Reads a string between three double quotes, after the opening ones. A backslash at the end of a line
drops all blanks and line ends after it; `trimming` says that it is in force. Up to two quotes may
stand before the closing ones.
-/
def longBasicString (trimming : Bool) : List Char → Reading (List Char)
  | [] => none
  | '"' :: '"' :: '"' :: '"' :: '"' :: rest => some (['"', '"'], rest)
  | '"' :: '"' :: '"' :: '"' :: rest => some (['"'], rest)
  | '"' :: '"' :: '"' :: rest => some ([], rest)
  | '\\' :: 'u' :: a :: b :: c :: d :: rest =>
    prependEscape (codePoint? [a, b, c, d]) (longBasicString false rest)
  | '\\' :: 'U' :: a :: b :: c :: d :: e :: f :: g :: h :: rest =>
    prependEscape (codePoint? [a, b, c, d, e, f, g, h]) (longBasicString false rest)
  | '\\' :: letter :: rest =>
    if lineIsBlank (letter :: rest) then longBasicString true (letter :: rest)
    else prependEscape (shortEscape? letter) (longBasicString false rest)
  | '\r' :: '\n' :: rest =>
    if trimming then longBasicString true rest else prepend '\n' (longBasicString false rest)
  | character :: rest =>
    if trimming && (isBlank character || character == '\n') then longBasicString true rest
    else if isPlain character || character == '\n' then
      prepend character (longBasicString false rest)
    else none

/-- Reads a string between three single quotes, after the opening ones. -/
def longLiteralString : List Char → Reading (List Char)
  | [] => none
  | '\'' :: '\'' :: '\'' :: '\'' :: '\'' :: rest => some (['\'', '\''], rest)
  | '\'' :: '\'' :: '\'' :: '\'' :: rest => some (['\''], rest)
  | '\'' :: '\'' :: '\'' :: rest => some ([], rest)
  | '\r' :: '\n' :: rest => prepend '\n' (longLiteralString rest)
  | character :: rest =>
    if isPlain character || character == '\n' then prepend character (longLiteralString rest)
    else none

/-- The value of a digit in a base. -/
def digit? (base : Nat) (character : Char) : Option Nat :=
  (Text.hexValue? character).filter (· < base)

/-- Reads the digits of a number of which `value` is read; one underscore may part two digits. -/
def digitsAfter? (base value : Nat) : List Char → Option Nat
  | [] => some value
  | '_' :: character :: rest => do
    let digit ← digit? base character
    digitsAfter? base (value * base + digit) rest
  | character :: rest => do
    let digit ← digit? base character
    digitsAfter? base (value * base + digit) rest

/-- Reads a number of at least one digit. -/
def digits? (base : Nat) : List Char → Option Nat
  | [] => none
  | character :: rest => do digitsAfter? base (← digit? base character) rest

/-- Reads a decimal number, which has no leading zero. -/
def decimal? : List Char → Option Nat
  | ['0'] => some 0
  | '0' :: _ => none
  | characters => digits? 10 characters

/-- The integer that a word denotes; it has to fit in 64 bits. -/
def integer? (word : List Char) : Option Int :=
  let value : Option Int := match word with
    | '0' :: 'x' :: digits => (digits? 16 digits).map Int.ofNat
    | '0' :: 'o' :: digits => (digits? 8 digits).map Int.ofNat
    | '0' :: 'b' :: digits => (digits? 2 digits).map Int.ofNat
    | '+' :: digits => (decimal? digits).map Int.ofNat
    | '-' :: digits => (decimal? digits).map fun value => -Int.ofNat value
    | digits => (decimal? digits).map Int.ofNat
  value.filter fun value => decide (-9223372036854775808 ≤ value ∧ value < 9223372036854775808)

/-- Whether a character may belong to a word such as a number. -/
def isWord (character : Char) : Bool := isBareKey character || character == '+' || character == '.'

/-- Reads a key. -/
def key? (characters : List Char) : Reading String :=
  let named (reading : Reading (List Char)) : Reading String :=
    reading.map fun (text, rest) => (String.ofList text, rest)
  match characters with
  | '"' :: rest => named (basicString rest)
  | '\'' :: rest => named (literalString rest)
  | _ =>
    let word := characters.takeWhile isBareKey
    if word.isEmpty then none else some (String.ofList word, characters.dropWhile isBareKey)

/-- Reads a value. -/
def value? (characters : List Char) : Reading Value :=
  let quoted (reading : Reading (List Char)) : Reading Value :=
    reading.map fun (text, rest) => (.string (String.ofList text), rest)
  let afterFirstEnd (rest : List Char) : List Char := (endOfLine? rest).getD rest
  match characters with
  | '"' :: '"' :: '"' :: rest => quoted (longBasicString false (afterFirstEnd rest))
  | '\'' :: '\'' :: '\'' :: rest => quoted (longLiteralString (afterFirstEnd rest))
  | '"' :: rest => quoted (basicString rest)
  | '\'' :: rest => quoted (literalString rest)
  | _ =>
    (integer? (characters.takeWhile isWord)).map fun value =>
      (.integer value, characters.dropWhile isWord)

/-- Reads a key, an equals sign and a value. -/
def entry? (characters : List Char) : Option ((String × Value) × List Char) := do
  let (key, rest) ← key? characters
  match skipBlanks rest with
  | '=' :: rest =>
    let (value, rest) ← value? (skipBlanks rest)
    return ((key, value), rest)
  | _ => none

/-- Reads at most `lines` lines, with the entries of the lines before them. -/
def lines? (entries : List (String × Value)) : (lines : Nat) → List Char →
    Option (List (String × Value))
  | 0, _ => none
  | lines + 1, characters =>
    let line := skipBlanks characters
    let unkeyed := match line with
      | [] | '#' :: _ | '\n' :: _ | '\r' :: _ => true
      | _ => false
    let read := if unkeyed then some (entries, line) else do
      let ((key, value), rest) ← entry? line
      if (entries.lookup key).isSome then none else some (entries ++ [(key, value)], rest)
    match read with
    | none => none
    | some (entries, rest) =>
      match skipComment (skipBlanks rest) with
      | [] => some entries
      | rest =>
        match endOfLine? rest with
        | none => none
        | some rest => lines? entries lines rest

/--
The entries of a document, in order. A mark of the byte order may stand at its head. No document has
more lines than one for each character and a last one.
-/
def parse? (text : String) : Option (List (String × Value)) :=
  let characters := match text.toList with
    | '\uFEFF' :: rest => rest
    | characters => characters
  lines? [] (characters.length + 1) characters

end Lifecycle.Toml
