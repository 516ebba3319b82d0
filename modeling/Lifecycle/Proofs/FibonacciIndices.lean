import Lifecycle.Proofs.FibonacciRuns

/-!
# Indices beyond the 32-bit range

The Fibonacci program takes any text of decimal digits for its index, but it reads the index modulo
`2 ^ 32`. An index beyond the largest 32-bit integer therefore counts as 0 only if its residue is
zero or has the sign bit set; from `2 ^ 32 + 1` on, there are others.
-/

namespace Lifecycle

namespace Numeral

/-- The residue of a number modulo `2 ^ 32`, seen as a signed integer. -/
theorem toInt_ofNat (number : Nat) :
    (Int32.ofNat number).toInt =
      if number % 2 ^ 32 < 2 ^ 31 then ((number % 2 ^ 32 : Nat) : Int)
      else ((number % 2 ^ 32 : Nat) : Int) - 2 ^ 32 := by
  rw [Int32.toInt_ofNat', Int.bmod_def]
  simp only [Int32.size]
  split <;> split <;> omega

theorem ofNat_mod (number : Nat) : Int32.ofNat (number % 2 ^ 32) = Int32.ofNat number := by
  rw [← Int32.toInt_inj, toInt_ofNat, toInt_ofNat, Nat.mod_mod]

theorem ofNat_nonpositive_iff {number : Nat} :
    Int32.ofNat number ≤ 0 ↔ number % 2 ^ 32 = 0 ∨ 2 ^ 31 ≤ number % 2 ^ 32 := by
  rw [Int32.le_iff_toInt_le, toInt_ofNat]
  have zero : (0 : Int32).toInt = 0 := rfl
  rw [zero]
  split <;> omega

theorem toInt32_of_isDigit {text : String}
    (decimal : ∀ digit ∈ text.toList, digit.isDigit = true) :
    toInt32 text = Int32.ofNat (Nat.ofDigitChars 10 text.toList 0) := by
  rw [toInt32_eq_ofNat, leadingDigits, List.takeWhile_eq_self_iff.mpr decimal]

end Numeral

namespace Fibonacci

/-- What the program does with an index of the given residue modulo `2 ^ 32`. -/
structure Takes (residue : Nat) (program : Program Int32) : Prop where
  /-- It returns 1 and makes no call exactly if the residue is no positive 32-bit integer. -/
  base_iff : program = .done 1 ↔ residue = 0 ∨ 2 ^ 31 ≤ residue
  second_iff : program = .done 2 ↔ residue = 1
  /-- In all other cases its first call creates a child. -/
  child_iff : (∃ next, program = .exec Program.fibonacciName (arguments (residue - 2)) next) ↔
    2 ≤ residue ∧ residue < 2 ^ 31

theorem takes_fibonacciOf (number : Nat) :
    Takes (number % 2 ^ 32) (Program.fibonacciOf (Int32.ofNat number)) := by
  rw [← Numeral.ofNat_mod number]
  have bound : number % 2 ^ 32 < 2 ^ 32 := Nat.mod_lt _ (by decide)
  generalize number % 2 ^ 32 = residue at bound
  have small : residue % 2 ^ 32 = residue := Nat.mod_eq_of_lt bound
  by_cases base : Int32.ofNat residue ≤ 0
  · rw [Program.fibonacciOf, if_pos base]
    rw [Numeral.ofNat_nonpositive_iff, small] at base
    exact ⟨by simpa using base, by simp; omega, by simp; omega⟩
  · have positive := base
    rw [Numeral.ofNat_nonpositive_iff, small] at positive
    by_cases one : residue = 1
    · subst residue
      rw [Program.fibonacciOf, if_neg base]
      exact ⟨by simp, by simp, by simp⟩
    · obtain ⟨index, rfl⟩ : ∃ index, residue = index + 2 := ⟨residue - 2, by omega⟩
      have creates : ∃ next, Program.fibonacciOf (Int32.ofNat (index + 2)) =
          .exec Program.fibonacciName (arguments index) next := by
        have former : index < 2 ^ 31 := by omega
        rw [fibonacciOf_add_two (by omega), fibonacciChild_eq former]
        exact ⟨_, rfl⟩
      rcases creates with ⟨next, creates⟩
      rw [creates]
      refine ⟨?_, ?_, ?_⟩
      · simp
        omega
      · simp
      · simp
        omega

/--
Given an index of any number of decimal digits, the program does what it does for the residue of the
index modulo `2 ^ 32`: it returns 1 without a call if that is 0 or at least `2 ^ 31`, it returns 2
without a call if that is 1, and else it creates a child.
-/
theorem index_counts_by_residue {name text : String} {others : List String}
    (decimal : ∀ digit ∈ text.toList, digit.isDigit = true) :
    Takes (Nat.ofDigitChars 10 text.toList 0 % 2 ^ 32)
      (Program.fibonacci (name :: text :: others)) := by
  have read := Numeral.toInt32_of_isDigit decimal
  have started : Program.fibonacci (name :: text :: others) =
      Program.fibonacciOf (Numeral.toInt32 text) := rfl
  rw [started, read]
  exact takes_fibonacciOf _

/-- For an index of twenty digits the program returns 1 at once. -/
theorem index_counts_by_residue_with_twenty_digits :
    (∀ digit ∈ "18446744073709551616".toList, digit.isDigit = true) ∧
      Program.fibonacci [Program.fibonacciName, "18446744073709551616"] = .done 1 := by
  have decimal : ∀ digit ∈ "18446744073709551616".toList, digit.isDigit = true :=
    List.all_eq_true.mp (by decide)
  exact ⟨decimal, (index_counts_by_residue decimal).base_iff.mpr (Or.inl (by decide))⟩

/-- An index beyond the 32-bit range for which a child is created. -/
theorem large_index_is_no_base_case :
    (∀ digit ∈ "4294967298".toList, digit.isDigit = true) ∧
      Int32.maxValue.toInt < Nat.ofDigitChars 10 "4294967298".toList 0 ∧
        (∃ next, Program.fibonacci [Program.fibonacciName, "4294967298"] =
          .exec Program.fibonacciName (arguments 0) next) ∧
          Program.fibonacci [Program.fibonacciName, "4294967298"] ≠ .done 1 := by
  have decimal : ∀ digit ∈ "4294967298".toList, digit.isDigit = true :=
    List.all_eq_true.mp (by decide)
  have started : Program.fibonacci [Program.fibonacciName, "4294967298"] =
      Program.fibonacciOf (Numeral.toInt32 "4294967298") := rfl
  have read := Numeral.toInt32_of_isDigit decimal
  have takes := takes_fibonacciOf (Nat.ofDigitChars 10 "4294967298".toList 0)
  rw [← read, ← started] at takes
  refine ⟨decimal, by decide, takes.child_iff.mpr (by decide), ?_⟩
  intro base
  exact absurd (takes.base_iff.mp base) (by decide)

end Fibonacci

end Lifecycle
