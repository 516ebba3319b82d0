/-!
# UTF-8

Bytes of UTF-8 as text. Decoding never fails: whatever is no character becomes a replacement
character, one for each longest run of bytes that begins a character and then breaks off, and one for
each byte that begins none.
-/

namespace Lifecycle.Utf8

/-- The character that stands for bytes that are none. -/
def replacement : Char := '\uFFFD'

/-- A character of which some bytes are still to come. -/
structure Pending where
  /-- The bits seen so far. -/
  bits : Nat
  /-- How many bytes follow after the next one. -/
  later : Nat
  /-- The least next byte. -/
  low : UInt8
  /-- The greatest next byte. -/
  high : UInt8
  deriving DecidableEq, Repr

/-- What a byte at the start of a character says. -/
inductive Lead where
  /-- It is a whole character. -/
  | character (value : Char)
  /-- More bytes belong to the character. -/
  | pending (pending : Pending)
  /-- No character starts with it. -/
  | broken
  deriving DecidableEq, Repr

/--
Reads a byte at the start of a character. The ranges of the second byte leave out overlong forms,
surrogates and code points above the last one.
-/
def Lead.ofByte (byte : UInt8) : Lead :=
  if byte < 0x80 then .character (Char.ofNat byte.toNat)
  else if byte < 0xC2 then .broken
  else if byte < 0xE0 then .pending ⟨byte.toNat - 0xC0, 0, 0x80, 0xBF⟩
  else if byte = 0xE0 then .pending ⟨0, 1, 0xA0, 0xBF⟩
  else if byte = 0xED then .pending ⟨0xD, 1, 0x80, 0x9F⟩
  else if byte < 0xF0 then .pending ⟨byte.toNat - 0xE0, 1, 0x80, 0xBF⟩
  else if byte = 0xF0 then .pending ⟨0, 2, 0x90, 0xBF⟩
  else if byte < 0xF4 then .pending ⟨byte.toNat - 0xF0, 2, 0x80, 0xBF⟩
  else if byte = 0xF4 then .pending ⟨4, 2, 0x80, 0x8F⟩
  else .broken

/-- A decoder between two bytes. -/
structure Decoder where
  /-- The characters decoded so far, the latest in front. -/
  decoded : List Char := []
  /-- The character that has begun. -/
  pending : Option Pending := none
  deriving DecidableEq, Repr

namespace Decoder

/-- Starts a character with `byte`. -/
def start (decoded : List Char) (byte : UInt8) : Decoder :=
  match Lead.ofByte byte with
  | .character value => ⟨value :: decoded, none⟩
  | .pending pending => ⟨decoded, some pending⟩
  | .broken => ⟨replacement :: decoded, none⟩

/-- Takes in one byte. -/
def feed (decoder : Decoder) (byte : UInt8) : Decoder :=
  match decoder.pending with
  | none => start decoder.decoded byte
  | some pending =>
    if pending.low ≤ byte ∧ byte ≤ pending.high then
      let bits := pending.bits * 64 + byte.toNat % 64
      match pending.later with
      | 0 => ⟨Char.ofNat bits :: decoder.decoded, none⟩
      | later + 1 => ⟨decoder.decoded, some ⟨bits, later, 0x80, 0xBF⟩⟩
    else start (replacement :: decoder.decoded) byte

/-- The text at the end of the bytes. -/
def finish (decoder : Decoder) : String :=
  String.ofList
    (if decoder.pending.isSome then replacement :: decoder.decoded else decoder.decoded).reverse

end Decoder

/-- The text of the bytes, with replacement characters for what is no character. -/
def decode (bytes : List UInt8) : String :=
  (bytes.foldl Decoder.feed {}).finish

/-- The bytes of a text. -/
def encode (text : String) : List UInt8 := text.toUTF8.toList

end Lifecycle.Utf8
