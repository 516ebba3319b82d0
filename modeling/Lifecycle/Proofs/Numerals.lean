import Lifecycle.Proofs.Texts
import Mathlib.Data.Int.ModEq
import Mathlib.Data.List.Basic

/-!
# Decimal arguments

Programs pass numbers to each other as decimal text. This file proves what becomes of them: a text is
read as the number that its leading digits denote, wrapped to 32 bits, and what was written for a
natural number is read as that number, whatever follows it that is not a digit. A negative number
does not survive, since its text starts with the sign.

The digits are those of the characters of a text and those of its bytes as well, because no byte of
any other character is that of a digit.
-/

namespace Lifecycle.Numeral

/-! ### The leading digits -/

/-- The longest run of decimal digits at the head of a text. -/
structure IsLeading (digits : List Char) (text : String) : Prop where
  heads : digits <+: text.toList
  decimal : ∀ digit ∈ digits, digit.isDigit = true
  longest : ∀ run, run <+: text.toList → (∀ digit ∈ run, digit.isDigit = true) →
    run.length ≤ digits.length

theorem isLeading_leadingDigits (text : String) : IsLeading (leadingDigits text) text := by
  refine ⟨List.takeWhile_prefix _, ?_, ?_⟩
  · intro digit member
    exact List.mem_takeWhile_imp member
  · rintro run ⟨later, split⟩ decimal
    rw [leadingDigits, ← split, List.takeWhile_append_of_pos decimal, List.length_append]
    exact Nat.le_add_right _ _

theorem IsLeading.eq_leadingDigits {digits : List Char} {text : String}
    (leading : IsLeading digits text) : digits = leadingDigits text := by
  have own := isLeading_leadingDigits text
  have below := own.longest digits leading.heads leading.decimal
  have above := leading.longest _ own.heads own.decimal
  exact (List.prefix_of_prefix_length_le leading.heads own.heads below).eq_of_length_le above

/-! ### The digits among the bytes -/

/-- Whether a byte encodes a decimal digit. -/
def isDigitByte (byte : UInt8) : Bool := 0x30 ≤ byte ∧ byte ≤ 0x39

theorem isDigitByte_iff {byte : UInt8} :
    isDigitByte byte = true ↔ 0x30 ≤ byte.toNat ∧ byte.toNat ≤ 0x39 := by
  rw [isDigitByte, decide_eq_true_iff, UInt8.le_iff_toNat_le, UInt8.le_iff_toNat_le]
  rfl

theorem isDigit_iff {character : Char} :
    character.isDigit = true ↔ 0x30 ≤ character.toNat ∧ character.toNat ≤ 0x39 := by
  simp only [Char.isDigit, Bool.and_eq_true, decide_eq_true_iff, ge_iff_le,
    UInt32.le_iff_toNat_le]
  rfl

theorem toNat_ofNat_of_isDigit {digit : Char} (decimal : digit.isDigit = true) :
    (UInt8.ofNat digit.toNat).toNat = digit.toNat := by
  have bounds := isDigit_iff.mp decimal
  exact UInt8.toNat_ofNat_of_lt' (Nat.lt_of_le_of_lt bounds.2 (by decide))

theorem encodeChar_of_isDigit {digit : Char} (decimal : digit.isDigit = true) :
    String.utf8EncodeChar digit = [UInt8.ofNat digit.toNat] := by
  have bounds := isDigit_iff.mp decimal
  have small : digit.val.toNat ≤ 0x7F := Nat.le_trans bounds.2 (by decide)
  unfold String.utf8EncodeChar
  simp only [if_pos small]
  rfl

/-- No byte of another character is the code of a digit. -/
theorem not_isDigitByte_of_mem {character : Char} {byte : UInt8}
    (other : ¬character.isDigit = true) (member : byte ∈ String.utf8EncodeChar character) :
    ¬isDigitByte byte = true := by
  rw [isDigit_iff] at other
  rw [isDigitByte_iff]
  rcases Utf8.mem_encodeChar member with same | above
  · rw [same]
    exact other
  · omega

theorem takeWhile_isDigitByte_encodeChar (characters : List Char) :
    (characters.flatMap String.utf8EncodeChar).takeWhile isDigitByte =
      (characters.takeWhile Char.isDigit).map fun digit => UInt8.ofNat digit.toNat := by
  induction characters with
  | nil => rfl
  | cons character characters ih =>
      rw [List.flatMap_cons]
      by_cases decimal : character.isDigit = true
      · have byte : isDigitByte (UInt8.ofNat character.toNat) = true := by
          rw [isDigitByte_iff, toNat_ofNat_of_isDigit decimal]
          exact isDigit_iff.mp decimal
        rw [encodeChar_of_isDigit decimal, List.singleton_append, List.takeWhile_cons_of_pos byte,
          List.takeWhile_cons_of_pos decimal, List.map_cons, ih]
      · -- The first byte of any other character ends the run already.
        have size := String.length_utf8EncodeChar character
        have positive := character.utf8Size_pos
        rcases List.exists_cons_of_length_pos (size ▸ positive) with ⟨first, others, bytes⟩
        have undigit := not_isDigitByte_of_mem decimal (bytes ▸ List.mem_cons_self)
        rw [List.takeWhile_cons_of_neg decimal, bytes, List.cons_append,
          List.takeWhile_cons_of_neg undigit, List.map_nil]

/-- Reading the bytes of a text up to the first that is no digit comes to the same number. -/
theorem toInt32_eq_foldl_encode (text : String) :
    toInt32 text = ((Utf8.encode text).takeWhile isDigitByte).foldl
      (fun value byte => value * 10 + Int32.ofNat (byte.toNat - 0x30)) 0 := by
  rw [Utf8.encode_eq_flatMap, takeWhile_isDigitByte_encodeChar, List.foldl_map, toInt32]
  apply List.foldl_ext
  intro value digit member
  have decimal := (isLeading_leadingDigits text).decimal digit member
  rw [toNat_ofNat_of_isDigit decimal, digitValue]
  rfl

/-! ### Reading and writing -/

/-- A 32-bit integer is the wrapped form of exactly the numbers of its residue class. -/
theorem ofNat_eq_iff (number : Nat) (value : Int32) :
    Int32.ofNat number = value ↔ value.toInt ≡ number [ZMOD 2 ^ 32] := by
  have low := value.le_toInt
  have high := value.toInt_lt
  rw [← Int32.toInt_inj, Int32.toInt_ofNat', Int.bmod_def, Int.ModEq]
  simp only [Int32.size]
  split <;> omega

theorem leadingDigits_append {digits rest : String}
    (decimal : ∀ digit ∈ digits.toList, digit.isDigit = true)
    (ends : ∀ first ∈ rest.toList.head?, first.isDigit = false) :
    leadingDigits (digits ++ rest) = digits.toList := by
  have none : rest.toList.takeWhile Char.isDigit = [] := by
    cases later : rest.toList with
    | nil => rfl
    | cons first others =>
        have other := ends first (by rw [later]; rfl)
        exact List.takeWhile_cons_of_neg (by rw [other]; exact Bool.false_ne_true)
  rw [leadingDigits, String.toList_append, List.takeWhile_append_of_pos decimal, none,
    List.append_nil]

theorem ofInt32_of_natural {value : Int32} (natural : 0 ≤ value) :
    ofInt32 value = toString value.toInt.toNat := by
  have sign : (0 : Int) ≤ value.toInt := Int32.le_iff_toInt_le.mp natural
  rw [ofInt32, ← Int.toNat_of_nonneg sign]
  rfl

theorem toInt32_ofInt32_append {value : Int32} (natural : 0 ≤ value) {rest : String}
    (ends : ∀ first ∈ rest.toList.head?, first.isDigit = false) :
    toInt32 (ofInt32 value ++ rest) = value := by
  have sign : (0 : Int) ≤ value.toInt := Int32.le_iff_toInt_le.mp natural
  have decimal : ∀ digit ∈ (toString value.toInt.toNat).toList, digit.isDigit = true := by
    intro digit member
    rw [toList_toString] at member
    exact isDigit_of_mem_toDigits member
  rw [toInt32_eq_ofNat, ofInt32_of_natural natural, leadingDigits_append decimal ends,
    toList_toString, Nat.ofDigitChars_toDigits (by omega) (by omega), ofNat_eq_iff,
    Int.toNat_of_nonneg sign]

theorem toInt32_ofInt32_append_of_neg {value : Int32} (negative : value < 0) (rest : String) :
    toInt32 (ofInt32 value ++ rest) = 0 := by
  have sign : value.toInt < 0 := Int32.lt_iff_toInt_lt.mp negative
  rcases Int.eq_negSucc_of_lt_zero sign with ⟨number, magnitude⟩
  have signed : (ofInt32 value).toList = '-' :: (toString (number + 1)).toList := by
    rw [ofInt32, magnitude]
    exact String.toList_append
  have none : leadingDigits (ofInt32 value ++ rest) = [] := by
    rw [leadingDigits, String.toList_append, signed]
    rfl
  rw [toInt32, none]
  rfl

/-- What a text is read as. -/
structure ReadAsDenoted (text : String) : Prop where
  /-- One run of digits heads the text that no other such run exceeds. -/
  leading : ∃! digits, IsLeading digits text
  /-- The text is read as the one 32-bit integer in the residue class of what the run denotes. -/
  value_iff : ∀ digits, IsLeading digits text → ∀ value : Int32,
    value = toInt32 text ↔ value.toInt ≡ Nat.ofDigitChars 10 digits 0 [ZMOD 2 ^ 32]
  /-- It makes no difference whether characters are read or bytes. -/
  bytewise : toInt32 text = ((Utf8.encode text).takeWhile isDigitByte).foldl
    (fun value byte => value * 10 + Int32.ofNat (byte.toNat - 0x30)) 0

/-- What the decimal text of a value is read as when more text follows it. -/
structure ReadAfterWriting (value : Int32) : Prop where
  natural : 0 ≤ value → ∀ rest : String, (∀ first ∈ rest.toList.head?, first.isDigit = false) →
    toInt32 (ofInt32 value ++ rest) = value
  negative : value < 0 → ∀ rest : String, toInt32 (ofInt32 value ++ rest) = 0

/--
Every text is read as the number that its leading digits denote modulo `2 ^ 32`, and what is written
for a value is read as that value, or as 0 if it is negative.
-/
theorem decimal_arguments_arrive (text : String) (value : Int32) :
    ReadAsDenoted text ∧ ReadAfterWriting value := by
  refine ⟨⟨?_, ?_, toInt32_eq_foldl_encode text⟩, ⟨?_, ?_⟩⟩
  · refine ⟨leadingDigits text, isLeading_leadingDigits text, ?_⟩
    intro digits leading
    exact leading.eq_leadingDigits
  · intro digits leading value
    rw [leading.eq_leadingDigits, toInt32_eq_ofNat, eq_comm]
    exact ofNat_eq_iff _ value
  · intro natural rest ends
    exact toInt32_ofInt32_append natural ends
  · intro negative rest
    exact toInt32_ofInt32_append_of_neg negative rest

/-- An argument of twelve digits wraps, and the letter behind it is not read. -/
example : toInt32 "100000000007é" = 1215752199 := by decide +kernel

end Lifecycle.Numeral
