import Lifecycle.Proofs.MachineCalls
import Lifecycle.Text.Utf8
import Mathlib.Data.List.Perm.Basic

/-!
# Outcomes of programs

What a program does on the whole, put together from the outcomes of its parts, and what that makes
of a machine. A child that was created, ran, ended and was collected leaves no trace in the kernel
but the pid that it had, so an outcome tells of children only how many there were.
-/

namespace Lifecycle

/-! ### Tables without traces of a child -/

namespace ProcessTable

variable {table : ProcessTable} {pids : Nat}

/-- The table after so many pids went to processes that are gone. -/
def advanced (table : ProcessTable) (pids : Nat) : ProcessTable :=
  { table with nextPid := table.nextPid + pids }

theorem advanced_advanced (table : ProcessTable) (pids more : Nat) :
    (table.advanced pids).advanced more = table.advanced (pids + more) := by
  simp [advanced, Nat.add_assoc]

theorem WellFormed.advanced (wellFormed : table.WellFormed)
    (inRange : table.nextPid + pids ≤ table.maxPid + 1) : (table.advanced pids).WellFormed where
  pid_eq := wellFormed.pid_eq
  below_next present := Nat.lt_add_right pids (wellFormed.below_next present)
  next_le := inRange
  running_eq := wellFormed.running_eq
  child_iff := wellFormed.child_iff
  parent_lt := wellFormed.parent_lt
  space_iff := wellFormed.space_iff

/-- A child that was created, ran, ended and was collected leaves nothing but its pid behind. -/
theorem WellFormed.collected_terminated (wellFormed : table.WellFormed) {creator : Pid}
    (known : table.contains creator = true) (space : AddressSpace) (status : Option Int32)
    (pids : Nat) :
    ((((table.entered (some creator)).activated ⟨table.nextPid⟩ space).advanced pids).terminated
        ⟨table.nextPid⟩ status).collected creator ⟨table.nextPid⟩ = table.advanced (pids + 1) := by
  have fresh := wellFormed.find?_nextPid
  rcases contains_iff.mp known with ⟨record, present⟩
  have below := wellFormed.below_next present
  apply ext_find?
  · intro other
    have unmoved (table : ProcessTable) (pids : Nat) :
      (table.advanced pids).find? other = table.find? other := rfl
    rw [find?_collected, find?_terminated, unmoved, find?_activated, find?_entered, unmoved]
    by_cases newcomer : other = ⟨table.nextPid⟩
    · subst other
      simp [fresh]
    -- Of the other records only that of the creator changed, and it changes back.
    · by_cases parent : creator = other
      · subst other
        have childless : record.children.contains ⟨table.nextPid⟩ = false := by
          rw [← Bool.not_eq_true, wellFormed.child_iff present]
          simp [fresh]
        simp [newcomer, Ne.symm newcomer, present, ProcessRecord.disown_adopt childless]
      · simp [newcomer, Ne.symm newcomer, parent]
  · change table.nextPid + 1 + pids = table.nextPid + (pids + 1)
    omega
  · change table.running + 1 - 1 = table.running
    omega
  · rfl

end ProcessTable

namespace WaitQueue

variable {queue : WaitQueue} {target waiter : Pid}

theorem waitersOf_of_find?_eq_none (unawaited : queue.waiters.find? target = none) :
    queue.waitersOf target = [] := by
  simp [waitersOf, unawaited]

theorem add_of_find?_eq_none (unawaited : queue.waiters.find? target = none) :
    queue.add target waiter = ⟨queue.waiters.insert target [waiter]⟩ := by
  simp [add, waitersOf_of_find?_eq_none unawaited]

theorem takeAll_of_find?_eq_none (unawaited : queue.waiters.find? target = none) :
    queue.takeAll target = ([], queue) := by
  simp [takeAll, waitersOf_of_find?_eq_none unawaited, PidMap.erase_of_find?_eq_none unawaited]

/-- Whoever waits for a process alone is gone from the queue when that process ends. -/
theorem takeAll_add (unawaited : queue.waiters.find? target = none) :
    ((queue.add target waiter).takeAll target).2 = queue := by
  simp [add_of_find?_eq_none unawaited, takeAll, PidMap.erase_insert,
    PidMap.erase_of_find?_eq_none unawaited]

theorem remove_add (unawaited : queue.waiters.find? target = none) :
    (queue.add target waiter).remove target waiter = queue := by
  simp [add_of_find?_eq_none unawaited, remove, PidMap.find?_insert, PidMap.erase_insert,
    PidMap.erase_of_find?_eq_none unawaited]

end WaitQueue

namespace Kernel

variable {E : Type} {kernel : Kernel E}

/-- The kernel after so many processes were created and are gone again. -/
def advanced (kernel : Kernel E) (pids : Nat) : Kernel E :=
  { kernel with table := kernel.table.advanced pids }

/-- The end of a process makes no difference to a queue in which nobody waited for it. -/
theorem departed_awaiting {pid target : Pid} (status : Option Int32)
    (unawaited : kernel.waiters.waiters.find? target = none) :
    (kernel.awaiting pid target).departed target status = kernel.departed target status := by
  have restored : ((kernel.waiters.add target pid).takeAll target).2 =
      (kernel.waiters.takeAll target).2 := by
    rw [WaitQueue.takeAll_add unawaited, WaitQueue.takeAll_of_find?_eq_none unawaited]
  simp only [departed, awaiting, restored]

section Launch

variable {creator : Pid} {name : String} {arguments : List String} {entry : E}
  {space : AddressSpace} {loader : Loader E}

theorem framesOf_launched (pids : Nat) :
    ((kernel.launched (some creator) space loader).advanced pids).table.framesOf
      ⟨kernel.table.nextPid⟩ = space.frames := by
  have found : ((kernel.launched (some creator) space loader).advanced pids).table.find?
      ⟨kernel.table.nextPid⟩ =
        some { ProcessRecord.newborn ⟨kernel.table.nextPid⟩ (some creator) with
          state := .running
          space := some space } := by
    change (kernel.launched (some creator) space loader).table.find? ⟨kernel.table.nextPid⟩ = _
    simp [launched, ProcessTable.find?_activated, ProcessTable.find?_entered]
  rw [ProcessTable.framesOf, found]
  rfl

theorem collected_departed (wellFormed : kernel.table.WellFormed)
    (known : kernel.table.contains creator = true)
    (unawaited : kernel.waiters.waiters.find? ⟨kernel.table.nextPid⟩ = none)
    (built : kernel.loader.load name arguments = .ok (⟨entry, space⟩, loader))
    (status : Option Int32) (pids : Nat) :
    (((kernel.launched (some creator) space loader).advanced pids).departed
        ⟨kernel.table.nextPid⟩ status).collected creator ⟨kernel.table.nextPid⟩ =
      kernel.advanced (pids + 1) := by
  have freed : loader.regained space.frames = kernel.loader := Loader.unload_of_load built
  have left := wellFormed.collected_terminated known space status pids
  have restored : ((kernel.waiters.takeAll ⟨kernel.table.nextPid⟩).2.add ⟨kernel.table.nextPid⟩
      creator).remove ⟨kernel.table.nextPid⟩ creator = kernel.waiters := by
    rw [WaitQueue.takeAll_of_find?_eq_none unawaited, WaitQueue.remove_add unawaited]
  simp only [collected, departed, framesOf_launched]
  simp only [advanced, launched, left, restored, freed]

end Launch

end Kernel

/-! ### Statistics -/

namespace Syscall

theorem Number.exists_code {code : Nat} (inRange : code < Number.count) :
    ∃ number : Number, number.code.val = code := by
  have named : ∀ place : Fin all.length, (all.get place).code.val = place.val := by decide
  exact ⟨all.get ⟨code, inRange⟩, named ⟨code, inRange⟩⟩

namespace Stats

theorem ext_count {left right : Stats} (counts : ∀ number, left.count number = right.count number)
    (unknown : left.unknown = right.unknown) : left = right := by
  have same : left.counts = right.counts := by
    apply Vector.ext
    intro code inRange
    rcases Number.exists_code inRange with ⟨number, rfl⟩
    exact counts number
  cases left
  cases right
  simp only at same unknown
  rw [same, unknown]

/-- The counters after the calls were counted. -/
def recordAll (stats : Stats) (calls : List Number) : Stats := calls.foldl record stats

theorem count_recordAll (stats : Stats) (calls : List Number) (number : Number) :
    (stats.recordAll calls).count number = stats.count number + calls.count number := by
  induction calls generalizing stats with
  | nil => rfl
  | cons call calls ih =>
      have step : stats.recordAll (call :: calls) = (stats.record call).recordAll calls := rfl
      rw [step, ih, count_record, List.count_cons]
      by_cases same : call = number
      · subst same
        simp
        omega
      · simp [same]

theorem unknown_recordAll (stats : Stats) (calls : List Number) :
    (stats.recordAll calls).unknown = stats.unknown := by
  induction calls generalizing stats with
  | nil => rfl
  | cons call calls ih => exact ih (stats.record call)

theorem recordAll_eq_of_perm (stats : Stats) {calls others : List Number}
    (permuted : calls.Perm others) : stats.recordAll calls = stats.recordAll others := by
  apply ext_count
  · intro number
    rw [count_recordAll, count_recordAll, permuted.count_eq]
  · rw [unknown_recordAll, unknown_recordAll]

end Stats

end Syscall

/-! ### Outcomes -/

/-- What a program does, or a part of it. -/
structure Outcome where
  /-- The status with which it ends the process, or else the one that it hands over. -/
  status : Int32
  /-- Whether it ends the process. -/
  ends : Bool
  /-- The system calls that it makes, together with those of the children it collects. -/
  calls : List Syscall.Number
  /-- The lines that they print. -/
  lines : List String
  /-- How many processes they create. -/
  created : Nat
  deriving DecidableEq, Repr

namespace Outcome

/-- Makes no call, and hands a number over. -/
def handsOver (status : Int32) : Outcome := ⟨status, false, [], [], 0⟩

/-- Makes one system call, which prints nothing. -/
def makes (call : Syscall.Number) : Outcome := ⟨0, false, [call], [], 0⟩

/-- Prints a line. -/
def prints (line : String) : Outcome := ⟨0, false, [.write], [line], 0⟩

/-- Ends the process. -/
def exits (status : Int32) : Outcome := ⟨status, true, [.exit], [], 0⟩

/-- Creates a child, and collects it when it has run. -/
def collects (child : Outcome) : Outcome :=
  ⟨child.status, false, .exec :: .join :: child.calls, child.lines, child.created + 1⟩

/-- One part after the other, unless the first one ends the process. -/
def followedBy (first later : Outcome) : Outcome :=
  if first.ends then first
  else
    { later with
      calls := first.calls ++ later.calls
      lines := first.lines ++ later.lines
      created := first.created + later.created }

theorem followedBy_of_ends {first : Outcome} (ends : first.ends = true) (later : Outcome) :
    first.followedBy later = first := by
  simp [followedBy, ends]

theorem followedBy_of_goesOn {first : Outcome} (goesOn : first.ends = false) (later : Outcome) :
    first.followedBy later =
      ⟨later.status, later.ends, first.calls ++ later.calls, first.lines ++ later.lines,
        first.created + later.created⟩ := by
  simp [followedBy, goesOn]

theorem created_followedBy_le (first later : Outcome) :
    (first.followedBy later).created ≤ first.created + later.created := by
  unfold followedBy
  split
  · exact Nat.le_add_right _ _
  · exact Nat.le_refl _

end Outcome

/-- The console after a line was written to it. -/
def Console.printed (console : Console) (line : String) : Console :=
  (console.write (Utf8.encode (line ++ "\n"))).2

namespace Machine

/-- The machine after what an outcome describes, as long as the process goes on. -/
def after (machine : Machine) (outcome : Outcome) : Machine :=
  { machine with
    system := {
      kernel := machine.system.kernel.advanced outcome.created
      console := outcome.lines.foldl Console.printed machine.system.console
      stats := machine.system.stats.recordAll outcome.calls } }

theorem after_followedBy (machine : Machine) {first : Outcome} (goesOn : first.ends = false)
    (later : Outcome) :
    (machine.after first).after later = machine.after (first.followedBy later) := by
  rw [Outcome.followedBy_of_goesOn goesOn]
  simp [after, Kernel.advanced, ProcessTable.advanced_advanced, Syscall.Stats.recordAll]

end Machine

end Lifecycle
