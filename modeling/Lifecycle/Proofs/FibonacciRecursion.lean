import Lifecycle.Program.Builtin
import Lifecycle.Proofs.Outcomes
import Lifecycle.Proofs.Texts
import Mathlib.Data.List.Count

/-!
# The Fibonacci program as a recursion

What a process of the program does on the whole, as a function of its index and of the number of
further processes that fit into the memory. If enough of them fit, the process returns its number;
otherwise one of its descendants finds no memory, and this spreads to all its ancestors.

How many processes there are bounds the numbers: as long as the processes have 32-bit pids, no sum
leaves the 32-bit range, and none is taken for the status of a failure.
-/

namespace Lifecycle.Fibonacci

/-! ### Numbers, processes and lines -/

/-- The number of an index: one, two, and from then on the sum of the two before. -/
def value : Nat → Nat
  | 0 => 1
  | 1 => 2
  | index + 2 => value index + value (index + 1)

/-- How many processes compute the number of an index. -/
def processes : Nat → Nat
  | 0 => 1
  | 1 => 1
  | index + 2 => 1 + processes index + processes (index + 1)

/-- The indices of these processes in the order in which they end. -/
def postorder : Nat → List Nat
  | 0 => [0]
  | 1 => [1]
  | index + 2 => postorder index ++ postorder (index + 1) ++ [index + 2]

/-- The line of a process that adds two numbers up. -/
def line (index : Nat) : String :=
  "fibonacci(" ++ toString index ++ ") = " ++ toString (value index)

/-- The lines of all processes; those of the indices 0 and 1 print none. -/
def lines (index : Nat) : List String :=
  ((postorder index).filter fun index => decide (2 ≤ index)).map line

theorem lines_add_two (index : Nat) :
    lines (index + 2) = lines index ++ lines (index + 1) ++ [line (index + 2)] := by
  simp [lines, postorder]

theorem processes_pos (index : Nat) : 0 < processes index := by
  fun_cases processes index <;> omega

theorem value_lt_processes : ∀ index, value (index + 4) < processes (index + 4)
  | 0 => by decide
  | 1 => by decide
  | index + 2 => by
      have former := value_lt_processes index
      have latter := value_lt_processes (index + 1)
      have sum : value (index + 2 + 4) = value (index + 4) + value (index + 1 + 4) := rfl
      have count : processes (index + 2 + 4) =
        1 + processes (index + 4) + processes (index + 1 + 4) := rfl
      omega

theorem lt_processes : ∀ index, index + 2 < processes (index + 2)
  | 0 => by decide
  | 1 => by decide
  | index + 2 => by
      have former := lt_processes index
      have latter := lt_processes (index + 1)
      have count : processes (index + 2 + 2) =
        1 + processes (index + 2) + processes (index + 1 + 2) := rfl
      omega

theorem le_processes (index : Nat) : index ≤ processes index := by
  match index with
  | 0 => omega
  | 1 => decide
  | index + 2 => exact Nat.le_of_lt (lt_processes index)

/-- As many processes as there are 32-bit pids never compute a number outside the 32-bit range. -/
theorem value_lt {index : Nat} (inRange : processes index ≤ 2 ^ 31) : value index < 2 ^ 31 := by
  match index with
  | 0 => decide
  | 1 => decide
  | 2 => decide
  | 3 => decide
  | index + 4 =>
      have smaller := value_lt_processes index
      omega

theorem index_lt {index : Nat} (inRange : processes index ≤ 2 ^ 31) : index < 2 ^ 31 := by
  match index with
  | 0 => omega
  | 1 => omega
  | index + 2 =>
      have smaller := lt_processes index
      omega

theorem status_ne {index : Nat} (inRange : processes index ≤ 2 ^ 31) :
    Int32.ofNat (value index) ≠ Program.outOfMemoryStatus := by
  intro same
  have number := congrArg Int32.toInt same
  rw [Int32.toInt_ofNat_of_lt (value_lt inRange)] at number
  have negative : Program.outOfMemoryStatus.toInt = -1 := rfl
  omega

/-! ### What a process does -/

/-- Ends a process that could not create or collect a child. -/
def fails : Outcome :=
  (Outcome.prints "Machine ran out of memory").followedBy (.exits Program.outOfMemoryStatus)

/-- Goes on with the number that a child has returned. -/
def receives (status : Int32) : Outcome :=
  if status = Program.outOfMemoryStatus then fails else .handsOver status

/-- Prints the sum for an index, and hands it over. -/
def adds (index : Nat) (sum : Int32) : Outcome :=
  (Outcome.prints ("fibonacci(" ++ toString index ++ ") = " ++ Numeral.ofInt32 sum)).followedBy
    (.handsOver sum)

/-- Computes a number in a child process, if one fits. -/
def inChild (run : Nat → Outcome) : (room : Nat) → Outcome
  | 0 => (Outcome.makes .exec).followedBy fails
  | room + 1 => (run room).collects.followedBy (receives (run room).status)

/-- The outcome of a process while `room` more processes fit into the memory. -/
def run : (index room : Nat) → Outcome
  | 0, _ => .handsOver 1
  | 1, _ => .handsOver 2
  | index + 2, room =>
    let former := inChild (run index) room
    let latter := inChild (run (index + 1)) room
    former.followedBy
      (latter.followedBy (adds (index + 2) (former.status + latter.status)))

/-! ### Enough memory -/

/-- How often the computation makes each system call; its first process exists already. -/
def tally (index : Nat) : Syscall.Number → Nat
  | .exec => processes index - 1
  | .join => processes index - 1
  | .write => (lines index).length
  | _ => 0

theorem tally_add_two (index : Nat) (number : Syscall.Number) :
    tally (index + 2) number =
      [.exec, .join, .exec, .join, .write].count number + tally index number +
        tally (index + 1) number := by
  have count : processes (index + 2) = 1 + processes index + processes (index + 1) := rfl
  have former := processes_pos index
  have latter := processes_pos (index + 1)
  have printed : (lines (index + 2)).length =
      (lines index).length + (lines (index + 1)).length + 1 := by
    rw [lines_add_two, List.length_append, List.length_append, List.length_singleton]
  cases number <;> simp [tally] <;> omega

/-- The outcome of a process whose descendants all fit into the memory. -/
structure Completes (index : Nat) (outcome : Outcome) : Prop where
  status : outcome.status = Int32.ofNat (value index)
  goesOn : outcome.ends = false
  calls : ∀ number, outcome.calls.count number = tally index number
  prints : outcome.lines = lines index
  created : outcome.created + 1 = processes index

theorem Completes.inChild {index room : Nat} (completes : Completes index (run index room))
    (inRange : processes index ≤ 2 ^ 31) :
    inChild (run index) (room + 1) =
      ⟨Int32.ofNat (value index), false, .exec :: .join :: (run index room).calls, lines index,
        processes index⟩ := by
  have kept : receives (run index room).status = .handsOver (Int32.ofNat (value index)) := by
    rw [completes.status, receives, if_neg (status_ne inRange)]
  rw [Fibonacci.inChild, kept, Outcome.followedBy_of_goesOn rfl, ← completes.prints,
    ← completes.created]
  simp [Outcome.collects, Outcome.handsOver]

theorem run_add_two (index room : Nat) :
    run (index + 2) room =
      (inChild (run index) room).followedBy
        ((inChild (run (index + 1)) room).followedBy
          (adds (index + 2)
            ((inChild (run index) room).status + (inChild (run (index + 1)) room).status))) := rfl

/-- The numbers are computed if the longest chain of descendants fits into the memory. -/
theorem completes_run : ∀ index room : Nat, index ≤ room + 1 →
    processes index ≤ 2 ^ 31 → Completes index (run index room)
  | 0, _, _, _ => by
      refine ⟨rfl, rfl, ?_, rfl, rfl⟩
      intro number
      cases number <;> rfl
  | 1, _, _, _ => by
      refine ⟨rfl, rfl, ?_, rfl, rfl⟩
      intro number
      cases number <;> rfl
  | index + 2, 0, fits, _ => by omega
  | index + 2, room + 1, fits, inRange => by
      have count : processes (index + 2) = 1 + processes index + processes (index + 1) := rfl
      have former := completes_run index room (by omega) (by omega)
      have latter := completes_run (index + 1) room (by omega) (by omega)
      have sum : Int32.ofNat (value index) + Int32.ofNat (value (index + 1)) =
          Int32.ofNat (value (index + 2)) := by
        rw [value, Int32.ofNat_add]
      rw [run_add_two, former.inChild (by omega), latter.inChild (by omega)]
      simp only [Outcome.followedBy_of_goesOn, adds, Outcome.prints, Outcome.handsOver, sum,
        Numeral.ofInt32_ofNat (value_lt inRange)]
      constructor
      · rfl
      · rfl
      · intro number
        have made := tally_add_two index number
        rw [← former.calls number, ← latter.calls number] at made
        simp only [List.count_append, List.count_cons, List.count_nil] at made ⊢
        omega
      · rw [lines_add_two, List.append_assoc]
        rfl
      · simp only
        omega

/-! ### Too little memory -/

theorem inChild_of_fails {run : Nat → Outcome} {room : Nat}
    (failed : (run room).status = Program.outOfMemoryStatus) :
    (inChild run (room + 1)).ends = true ∧
      (inChild run (room + 1)).status = Program.outOfMemoryStatus := by
  rw [inChild, receives, if_pos failed, Outcome.followedBy_of_goesOn rfl]
  exact ⟨rfl, rfl⟩

/-- The status of a failure reaches every ancestor. -/
theorem status_run_of_short : ∀ index room : Nat, room + 1 < index →
    processes index ≤ 2 ^ 31 → (run index room).status = Program.outOfMemoryStatus
  | 0, _, short, _ => by omega
  | 1, _, short, _ => by omega
  | index + 2, 0, _, _ => rfl
  | index + 2, room + 1, short, inRange => by
      have count : processes (index + 2) = 1 + processes index + processes (index + 1) := rfl
      rw [run_add_two]
      by_cases fits : index ≤ room + 1
      -- The former child still fits with its descendants, and the latter one does not.
      · have former := (completes_run index room fits (by omega)).inChild (by omega)
        have latter := inChild_of_fails
          (status_run_of_short (index + 1) room (by omega) (by omega))
        rw [former, Outcome.followedBy_of_goesOn rfl, Outcome.followedBy_of_ends latter.1]
        exact latter.2
      · have former := inChild_of_fails
          (status_run_of_short index room (by omega) (by omega))
        rw [Outcome.followedBy_of_ends former.1]
        exact former.2

/-! ### Pids -/

theorem created_inChild_le {index : Nat}
    (bounded : ∀ room, (run index room).created < processes index) (room : Nat) :
    (inChild (run index) room).created ≤ processes index := by
  cases room with
  | zero => exact Nat.zero_le _
  | succ room =>
      have silent : (receives (run index room).status).created = 0 := by
        unfold receives
        split <;> rfl
      have kept := (run index room).collects.created_followedBy_le
        (receives (run index room).status)
      rw [silent] at kept
      exact Nat.le_trans kept (bounded room)

/-- However much memory there is, no more processes are created than the whole computation takes. -/
theorem created_run_lt : ∀ (index room : Nat), (run index room).created < processes index
  | 0, _ => Nat.one_pos
  | 1, _ => Nat.one_pos
  | index + 2, room => by
      have count : processes (index + 2) = 1 + processes index + processes (index + 1) := rfl
      have former := created_inChild_le (created_run_lt index) room
      have latter := created_inChild_le (created_run_lt (index + 1)) room
      rw [run_add_two]
      generalize (inChild (run index) room).status + (inChild (run (index + 1)) room).status = sum
      have outer := Outcome.created_followedBy_le (inChild (run index) room)
        ((inChild (run (index + 1)) room).followedBy (adds (index + 2) sum))
      have inner := Outcome.created_followedBy_le (inChild (run (index + 1)) room)
        (adds (index + 2) sum)
      have silent : (adds (index + 2) sum).created = 0 := rfl
      omega

end Lifecycle.Fibonacci
