import Lifecycle.Numeral
import Lifecycle.Text.Utf8
import Mathlib.Algebra.Group.Nat.Defs
import Mathlib.Data.List.TakeWhile

/-!
# Texts and numerals read back

What is encoded as UTF-8 is decoded to the same text, and what is written as decimal text is read
back as the same number, modulo `2 ^ 32`.
-/

namespace Lifecycle

namespace Utf8

theorem toList_loop (bytes : ByteArray) (place : Nat) (collected : List UInt8) :
    ByteArray.toList.loop bytes place collected =
      collected.reverse ++ bytes.data.toList.drop place := by
  fun_induction ByteArray.toList.loop bytes place collected with
  | case1 place collected inRange ih =>
      have inside : place < bytes.data.toList.length := by
        rw [Array.length_toList]
        exact inRange
      have here : bytes.get! place = bytes.data.toList[place] :=
        getElem!_pos bytes.data place inRange
      rw [ih, List.drop_eq_getElem_cons inside, here, List.reverse_cons, List.append_assoc]
      rfl
  | case2 place collected outside =>
      have beyond : bytes.data.toList.length ≤ place := by
        rw [Array.length_toList]
        exact Nat.le_of_not_lt outside
      rw [List.drop_eq_nil_of_le beyond, List.append_nil]

theorem encode_eq_flatMap (text : String) :
    encode text = text.toList.flatMap String.utf8EncodeChar := by
  have bytes : text.toUTF8 = (text.toList.flatMap String.utf8EncodeChar).toByteArray := by
    rw [← String.ofList_toList (s := text), String.toUTF8, String.toByteArray_ofList,
      String.toList_ofList]
    rfl
  rw [encode, bytes, ByteArray.toList, toList_loop]
  simp

theorem encode_append (text later : String) :
    encode (text ++ later) = encode text ++ encode later := by
  rw [encode_eq_flatMap, encode_eq_flatMap, encode_eq_flatMap, String.toList_append,
    List.flatMap_append]

theorem length_encode (text : String) : (encode text).length = text.utf8ByteSize := by
  rw [encode, ByteArray.toList, toList_loop]
  simp

/-- A character is written as its code in one byte, or in bytes from `0x80` on. -/
theorem mem_encodeChar {character : Char} {byte : UInt8}
    (member : byte ∈ String.utf8EncodeChar character) :
    byte.toNat = character.val.toNat ∨ 0x80 ≤ byte.toNat := by
  have valid := character.valid
  unfold UInt32.isValidChar Nat.isValidChar at valid
  unfold String.utf8EncodeChar at member
  generalize character.val.toNat = value at member valid
  simp only at member
  split at member
  · left
    rw [List.mem_singleton] at member
    rw [member, UInt8.toNat_ofNat']
    omega
  · right
    split at member
    · simp only [List.mem_cons, List.not_mem_nil, or_false] at member
      rcases member with rfl | rfl
      all_goals
        rw [UInt8.toNat_ofNat']
        omega
    · split at member
      · simp only [List.mem_cons, List.not_mem_nil, or_false] at member
        rcases member with rfl | rfl | rfl
        all_goals
          rw [UInt8.toNat_ofNat']
          omega
      · simp only [List.mem_cons, List.not_mem_nil, or_false] at member
        rcases member with rfl | rfl | rfl | rfl
        all_goals
          rw [UInt8.toNat_ofNat']
          omega

/-! ### Decoding what was encoded -/

theorem ofByte_ofNat {value : Nat} (byte : value < 256) :
    Lead.ofByte (UInt8.ofNat value) =
      if value < 0x80 then .character (Char.ofNat value)
      else if value < 0xC2 then .broken
      else if value < 0xE0 then .pending ⟨value - 0xC0, 0, 0x80, 0xBF⟩
      else if value = 0xE0 then .pending ⟨0, 1, 0xA0, 0xBF⟩
      else if value = 0xED then .pending ⟨0xD, 1, 0x80, 0x9F⟩
      else if value < 0xF0 then .pending ⟨value - 0xE0, 1, 0x80, 0xBF⟩
      else if value = 0xF0 then .pending ⟨0, 2, 0x90, 0xBF⟩
      else if value < 0xF4 then .pending ⟨value - 0xF0, 2, 0x80, 0xBF⟩
      else if value = 0xF4 then .pending ⟨4, 2, 0x80, 0x8F⟩
      else .broken := by
  have number : (UInt8.ofNat value).toNat = value := UInt8.toNat_ofNat_of_lt byte
  simp only [Lead.ofByte, UInt8.lt_iff_toNat_lt, ← UInt8.toNat_inj, number]
  rfl

theorem feed_pending {decoded : List Char} {pending : Pending} {value : Nat} (byte : value < 256)
    (low : pending.low.toNat ≤ value) (high : value ≤ pending.high.toNat) :
    Decoder.feed ⟨decoded, some pending⟩ (UInt8.ofNat value) =
      match pending.later with
      | 0 => ⟨Char.ofNat (pending.bits * 64 + value % 64) :: decoded, none⟩
      | later + 1 => ⟨decoded, some ⟨pending.bits * 64 + value % 64, later, 0x80, 0xBF⟩⟩ := by
  have number : (UInt8.ofNat value).toNat = value := UInt8.toNat_ofNat_of_lt byte
  have follows : pending.low ≤ UInt8.ofNat value ∧ UInt8.ofNat value ≤ pending.high := by
    rw [UInt8.le_iff_toNat_le, UInt8.le_iff_toNat_le, number]
    exact ⟨low, high⟩
  cases remaining : pending.later with
  | zero => simp only [Decoder.feed, if_pos follows, number, remaining]
  | succ later => simp only [Decoder.feed, if_pos follows, number, remaining]

theorem feed_start {decoded : List Char} {byte : UInt8} :
    Decoder.feed ⟨decoded, none⟩ byte = Decoder.start decoded byte := rfl

theorem start_two (decoded : List Char) {value : Nat} (low : 0x80 ≤ value) (high : value < 0x800) :
    Decoder.start decoded (UInt8.ofNat (value / 64 % 32 + 192)) =
      ⟨decoded, some ⟨value / 64, 0, 0x80, 0xBF⟩⟩ := by
  have lead : value / 64 % 32 + 192 - 0xC0 = value / 64 := by omega
  rw [Decoder.start, ofByte_ofNat (by omega), if_neg (by omega), if_neg (by omega),
    if_pos (by omega), lead]

/-- The range of the second byte leaves out overlong forms and surrogates, and nothing else. -/
theorem start_three (decoded : List Char) (value : Nat) (low : 0x800 ≤ value)
    (high : value < 0x10000) (valid : value < 0xD800 ∨ 0xDFFF < value) :
    ∃ least greatest : UInt8,
      Decoder.start decoded (UInt8.ofNat (value / 4096 % 16 + 224)) =
          ⟨decoded, some ⟨value / 4096, 1, least, greatest⟩⟩ ∧
        least.toNat ≤ value / 64 % 64 + 128 ∧ value / 64 % 64 + 128 ≤ greatest.toNat := by
  rw [Decoder.start, ofByte_ofNat (by omega), if_neg (by omega), if_neg (by omega),
    if_neg (by omega)]
  by_cases overlong : value / 4096 = 0
  · refine ⟨0xA0, 0xBF, ?_, ?_, ?_⟩
    · rw [if_pos (by omega), overlong]
    · change 160 ≤ _
      omega
    · change _ ≤ 191
      omega
  · by_cases surrogate : value / 4096 = 13
    · refine ⟨0x80, 0x9F, ?_, ?_, ?_⟩
      · rw [if_neg (by omega), if_pos (by omega), surrogate]
      · change 128 ≤ _
        omega
      · change _ ≤ 159
        omega
    · have lead : value / 4096 % 16 + 224 - 0xE0 = value / 4096 := by omega
      refine ⟨0x80, 0xBF, ?_, ?_, ?_⟩
      · rw [if_neg (by omega), if_neg (by omega), if_pos (by omega), lead]
      · change 128 ≤ _
        omega
      · change _ ≤ 191
        omega

/-- The range of the second byte leaves out overlong forms and what no character has as its code. -/
theorem start_four (decoded : List Char) (value : Nat) (low : 0x10000 ≤ value)
    (high : value < 0x110000) :
    ∃ least greatest : UInt8,
      Decoder.start decoded (UInt8.ofNat (value / 262144 % 8 + 240)) =
          ⟨decoded, some ⟨value / 262144, 2, least, greatest⟩⟩ ∧
        least.toNat ≤ value / 4096 % 64 + 128 ∧ value / 4096 % 64 + 128 ≤ greatest.toNat := by
  rw [Decoder.start, ofByte_ofNat (by omega), if_neg (by omega), if_neg (by omega),
    if_neg (by omega), if_neg (by omega), if_neg (by omega), if_neg (by omega)]
  by_cases overlong : value / 262144 = 0
  · refine ⟨0x90, 0xBF, ?_, ?_, ?_⟩
    · rw [if_pos (by omega), overlong]
    · change 144 ≤ _
      omega
    · change _ ≤ 191
      omega
  · by_cases last : value / 262144 = 4
    · refine ⟨0x80, 0x8F, ?_, ?_, ?_⟩
      · rw [if_neg (by omega), if_neg (by omega), if_pos (by omega), last]
      · change 128 ≤ _
        omega
      · change _ ≤ 143
        omega
    · have lead : value / 262144 % 8 + 240 - 0xF0 = value / 262144 := by omega
      refine ⟨0x80, 0xBF, ?_, ?_, ?_⟩
      · rw [if_neg (by omega), if_pos (by omega), lead]
      · change 128 ≤ _
        omega
      · change _ ≤ 191
        omega

/-- Any byte from `0x80` to `0xBF` goes on with a character after its second byte. -/
theorem feed_later {decoded : List Char} {bits later low : Nat} (byte : low < 64) :
    Decoder.feed ⟨decoded, some ⟨bits, later + 1, 0x80, 0xBF⟩⟩ (UInt8.ofNat (low + 128)) =
      ⟨decoded, some ⟨bits * 64 + low, later, 0x80, 0xBF⟩⟩ := by
  have rest : (low + 128) % 64 = low := by omega
  rw [feed_pending (by omega), rest]
  · change 128 ≤ _
    omega
  · change _ ≤ 191
    omega

/-- Any byte from `0x80` to `0xBF` ends a character that has its second byte. -/
theorem feed_last {decoded : List Char} {bits low : Nat} (byte : low < 64) :
    Decoder.feed ⟨decoded, some ⟨bits, 0, 0x80, 0xBF⟩⟩ (UInt8.ofNat (low + 128)) =
      ⟨Char.ofNat (bits * 64 + low) :: decoded, none⟩ := by
  have rest : (low + 128) % 64 = low := by omega
  rw [feed_pending (by omega), rest]
  · change 128 ≤ _
    omega
  · change _ ≤ 191
    omega

/-- The bytes of a character are read as that character. -/
theorem foldl_feed_encodeChar (decoded : List Char) (character : Char) :
    (String.utf8EncodeChar character).foldl Decoder.feed ⟨decoded, none⟩ =
      ⟨character :: decoded, none⟩ := by
  have whole : Char.ofNat character.val.toNat = character := Char.ofNat_toNat character
  have valid := character.valid
  unfold UInt32.isValidChar Nat.isValidChar at valid
  unfold String.utf8EncodeChar
  generalize character.val.toNat = value at whole valid
  simp only
  split
  · rw [List.foldl_cons, List.foldl_nil, feed_start, Decoder.start, ofByte_ofNat (by omega),
      if_pos (by omega), whole]
  · split
    · have bits : value / 64 * 64 + value % 64 = value := by omega
      rw [List.foldl_cons, List.foldl_cons, List.foldl_nil, feed_start,
        start_two decoded (by omega) (by omega), feed_last (by omega), bits, whole]
    · split
      · rcases start_three decoded value (by omega) (by omega) (by omega) with
          ⟨least, greatest, start, above, below⟩
        have rest : (value / 64 % 64 + 128) % 64 = value / 64 % 64 := by omega
        have bits : (value / 4096 * 64 + value / 64 % 64) * 64 + value % 64 = value := by omega
        rw [List.foldl_cons, List.foldl_cons, List.foldl_cons, List.foldl_nil, feed_start, start,
          feed_pending (by omega) above below, rest, feed_last (by omega), bits, whole]
      · rcases start_four decoded value (by omega) (by omega) with
          ⟨least, greatest, start, above, below⟩
        have rest : (value / 4096 % 64 + 128) % 64 = value / 4096 % 64 := by omega
        have bits : ((value / 262144 * 64 + value / 4096 % 64) * 64 + value / 64 % 64) * 64 +
            value % 64 = value := by omega
        rw [List.foldl_cons, List.foldl_cons, List.foldl_cons, List.foldl_cons, List.foldl_nil,
          feed_start, start, feed_pending (by omega) above below, rest, feed_later (by omega),
          feed_last (by omega), bits, whole]

theorem foldl_feed_flatMap (decoded characters : List Char) :
    (characters.flatMap String.utf8EncodeChar).foldl Decoder.feed ⟨decoded, none⟩ =
      ⟨characters.reverse ++ decoded, none⟩ := by
  induction characters generalizing decoded with
  | nil => rfl
  | cons character characters ih =>
      rw [List.flatMap_cons, List.foldl_append, foldl_feed_encodeChar, ih, List.reverse_cons,
        List.append_assoc]
      rfl

/-- Decoding gives back whatever text was encoded. -/
theorem decode_encode (text : String) : decode (encode text) = text := by
  rw [decode, encode_eq_flatMap]
  rw [foldl_feed_flatMap, List.append_nil, Decoder.finish, Option.isSome_none]
  simp only [Bool.false_eq_true, if_false, List.reverse_reverse, String.ofList_toList]

end Utf8

namespace Numeral

theorem foldl_digits (digits : List Char) (value : Nat) :
    digits.foldl (fun value digit => value * 10 + Int32.ofNat (digitValue digit))
        (Int32.ofNat value) =
      Int32.ofNat (Nat.ofDigitChars 10 digits value) := by
  induction digits generalizing value with
  | nil => rfl
  | cons digit digits ih =>
      have step : Int32.ofNat value * 10 + Int32.ofNat (digitValue digit) =
          Int32.ofNat (10 * value + digitValue digit) := by
        rw [Int32.ofNat_add, Int32.ofNat_mul, Int32.mul_comm]
        rfl
      rw [List.foldl_cons, step, ih]
      rfl

theorem isDigit_of_mem_toDigits {number : Nat} {digit : Char}
    (member : digit ∈ Nat.toDigits 10 number) : digit.isDigit = true :=
  Nat.isDigit_of_mem_toDigits (by omega) (by omega) member

theorem toList_toString (number : Nat) : (toString number).toList = Nat.toDigits 10 number := by
  rw [Nat.toString_eq_ofList_toDigits, String.toList_ofList]

theorem leadingDigits_toString (number : Nat) :
    leadingDigits (toString number) = Nat.toDigits 10 number := by
  rw [leadingDigits, toList_toString]
  apply List.takeWhile_eq_self_iff.mpr
  intro digit member
  exact isDigit_of_mem_toDigits member

/-- A text is read as the number that its leading digits denote, modulo `2 ^ 32`. -/
theorem toInt32_eq_ofNat (text : String) :
    toInt32 text = Int32.ofNat (Nat.ofDigitChars 10 (leadingDigits text) 0) :=
  foldl_digits (leadingDigits text) 0

theorem toInt32_toString (number : Nat) : toInt32 (toString number) = Int32.ofNat number := by
  rw [toInt32_eq_ofNat, leadingDigits_toString, Nat.ofDigitChars_toDigits (by omega) (by omega)]

theorem ofInt32_ofNat {number : Nat} (inRange : number < 2 ^ 31) :
    ofInt32 (Int32.ofNat number) = toString number := by
  rw [ofInt32, Int32.toInt_ofNat_of_lt inRange]
  rfl

/-! ### The bytes of a numeral -/

theorem utf8Size_of_isDigit {digit : Char} (decimal : digit.isDigit = true) :
    digit.utf8Size = 1 := by
  simp only [Char.isDigit, Bool.and_eq_true, decide_eq_true_eq] at decimal
  rw [Char.utf8Size_eq_one_iff]
  exact UInt32.le_trans decimal.2 (by decide)

theorem length_flatMap_encodeChar {digits : List Char}
    (decimal : ∀ digit ∈ digits, digit.isDigit = true) :
    (digits.flatMap String.utf8EncodeChar).length = digits.length := by
  induction digits with
  | nil => rfl
  | cons digit digits ih =>
      have first := utf8Size_of_isDigit (decimal digit List.mem_cons_self)
      have others : ∀ later ∈ digits, later.isDigit = true := by
        intro later member
        exact decimal later (List.mem_cons_of_mem digit member)
      rw [List.flatMap_cons, List.length_append, String.length_utf8EncodeChar, first, ih others,
        List.length_cons, Nat.add_comm]

/-- A numeral in the 32-bit range has at most ten digits, each of one byte. -/
theorem utf8ByteSize_toString_le {number : Nat} (inRange : number < 2 ^ 31) :
    (toString number).utf8ByteSize ≤ 10 := by
  have decimal : ∀ digit ∈ Nat.toDigits 10 number, digit.isDigit = true := by
    intro digit member
    exact isDigit_of_mem_toDigits member
  rw [← Utf8.length_encode, Utf8.encode_eq_flatMap, toList_toString,
    length_flatMap_encodeChar decimal, Nat.length_toDigits_le_iff (by omega) (by omega)]
  omega

end Numeral

end Lifecycle
