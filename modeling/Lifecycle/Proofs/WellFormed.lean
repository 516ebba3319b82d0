import Lifecycle.Proofs.ProcessTable

/-!
# Representation invariant of the process table

The table keeps two facts twice: a process is entered both as a child of its parent and with its
parent, and the number of running processes is both a counter and a property of the records. This
file proves that every sequence of operations, with whatever arguments, keeps them in step.

The argument rests on the order of pids. A parent has a smaller pid than its children, and every pid
of a record lies below the counter. So when `withdraw` lets the counter go back to a pid, no record
can name that pid as its parent: a process that gets the pid anew starts without children.
-/

namespace Lifecycle

theorem Pid.ne_of_lt {pid : Pid} {number : Nat} (below : pid.number < number) : pid ≠ ⟨number⟩ := by
  intro same
  subst same
  simp at below

namespace ProcessTable

variable {table next : ProcessTable} {pid caller target : Pid} {parent : Option Pid}
  {record : ProcessRecord}

/-- How many records are in the running state. -/
def runningCount (table : ProcessTable) : Nat :=
  table.records.values.countP fun record => decide (record.state = .running)

/-- What every table that the operations produce satisfies. -/
structure WellFormed (table : ProcessTable) : Prop where
  pid_eq : ∀ {pid record}, table.find? pid = some record → record.pid = pid
  below_next : ∀ {pid record}, table.find? pid = some record → pid.number < table.nextPid
  next_le : table.nextPid ≤ table.maxPid + 1
  running_eq : table.running = table.runningCount
  /-- The sets of children and the parents tell the same story. -/
  child_iff : ∀ {pid record}, table.find? pid = some record → ∀ child,
    record.children.contains child = true ↔
      ∃ other, table.find? child = some other ∧ other.parent = some pid
  parent_lt : ∀ {pid record creator}, table.find? pid = some record →
    record.parent = some creator → creator.number < pid.number
  /-- A process owns memory exactly while it runs. -/
  space_iff : ∀ {pid record}, table.find? pid = some record →
    (record.space.isSome = true ↔ record.state = .running)

/-! ### The two sides of a parent link -/

theorem parentOf?_eq_some_iff {creator : Pid} :
    table.parentOf? pid = some creator ↔
      ∃ record, table.find? pid = some record ∧ record.parent = some creator := by
  simp [parentOf?, Option.bind_eq_some_iff]

/-- `child_iff` in terms of `hasChild`. -/
theorem child_iff_iff_hasChild_iff :
    (∀ {pid record}, table.find? pid = some record → ∀ child,
      (record.children.contains child = true ↔
        ∃ other, table.find? child = some other ∧ other.parent = some pid)) ↔
      ∀ caller target, table.hasChild caller target = true ↔ table.IsChild caller target := by
  constructor
  · intro linked caller target
    rw [hasChild_iff, IsChild, contains_iff, parentOf?_eq_some_iff]
    constructor
    · rintro ⟨record, present, child⟩
      exact ⟨⟨record, present⟩, (linked present target).mp child⟩
    · rintro ⟨⟨record, present⟩, named⟩
      exact ⟨record, present, (linked present target).mpr named⟩
  · intro linked pid record present child
    have step := linked pid child
    rw [hasChild_iff, IsChild, contains_iff, parentOf?_eq_some_iff] at step
    simpa [present] using step

theorem WellFormed.hasChild_iff_isChild (wellFormed : table.WellFormed) (caller target : Pid) :
    table.hasChild caller target = true ↔ table.IsChild caller target :=
  child_iff_iff_hasChild_iff.mp wellFormed.child_iff caller target

theorem WellFormed.lt_of_parentOf? (wellFormed : table.WellFormed) {creator : Pid}
    (named : table.parentOf? pid = some creator) : creator.number < pid.number := by
  rcases parentOf?_eq_some_iff.mp named with ⟨record, present, parent⟩
  exact wellFormed.parent_lt present parent

theorem WellFormed.lt_nextPid_of_parentOf? (wellFormed : table.WellFormed) {creator : Pid}
    (named : table.parentOf? pid = some creator) : pid.number < table.nextPid := by
  rcases parentOf?_eq_some_iff.mp named with ⟨record, present, _⟩
  exact wellFormed.below_next present

/-- The pid that is handed out next has no record. -/
theorem WellFormed.find?_nextPid (wellFormed : table.WellFormed) :
    table.find? ⟨table.nextPid⟩ = none := by
  cases present : table.find? ⟨table.nextPid⟩ with
  | none => rfl
  | some record =>
      have := wellFormed.below_next present
      simp at this

theorem WellFormed.ne_nextPid (wellFormed : table.WellFormed) {state : ProcessState}
    (found : table.stateOf? pid = some state) : pid ≠ ⟨table.nextPid⟩ := by
  rcases stateOf?_eq_some_iff.mp found with ⟨record, present, _⟩
  exact Pid.ne_of_lt (wellFormed.below_next present)

/-- No record names the pid that is handed out next as its parent. -/
theorem WellFormed.parentOf?_ne_nextPid (wellFormed : table.WellFormed) (pid : Pid) :
    table.parentOf? pid ≠ some ⟨table.nextPid⟩ := by
  intro named
  have smaller := wellFormed.lt_of_parentOf? named
  have below := wellFormed.lt_nextPid_of_parentOf? named
  simp only at smaller
  omega

/-- A process that does not run owns no memory. -/
theorem WellFormed.space_eq_none (wellFormed : table.WellFormed)
    (present : table.find? pid = some record) (idle : record.state ≠ .running) :
    record.space = none := by
  have owner := wellFormed.space_iff present
  simpa [idle] using owner

/-! ### The running counter -/

/-- What one record adds to the number of running processes. -/
def runningWeight (record : ProcessRecord) : Nat := if record.state = .running then 1 else 0

theorem runningWeight_of_running (running : record.state = .running) :
    runningWeight record = 1 := if_pos running

theorem runningWeight_of_not_running (idle : record.state ≠ .running) :
    runningWeight record = 0 := if_neg idle

theorem runningCount_eq_sum : table.runningCount = table.records.sum runningWeight := by
  unfold runningCount PidMap.sum
  induction table.records.values with
  | nil => rfl
  | cons record rest ih =>
      by_cases running : record.state = .running <;>
        simp [runningWeight, running, ih, Nat.add_comm]

theorem ignoresChildren_runningWeight : IgnoresChildren runningWeight := fun _ _ => rfl

theorem WellFormed.running_eq_sum (wellFormed : table.WellFormed) :
    table.running = table.records.sum runningWeight := by
  rw [← runningCount_eq_sum]
  exact wellFormed.running_eq

/-- A process that runs is counted. -/
theorem WellFormed.running_pos (wellFormed : table.WellFormed)
    (present : table.find? pid = some record) (running : record.state = .running) :
    0 < table.running := by
  rw [wellFormed.running_eq_sum, PidMap.sum_of_find?_eq_some _ present,
    runningWeight_of_running running]
  omega

/-- The counter never exceeds the number of pids handed out. -/
theorem WellFormed.running_le (wellFormed : table.WellFormed) : table.running ≤ table.nextPid := by
  have counted : table.runningCount ≤ table.records.values.length := List.countP_le_length
  have bounded : table.records.size ≤ table.nextPid :=
    PidMap.size_le_of_below fun _ _ present => wellFormed.below_next present
  rw [wellFormed.running_eq]
  simp only [PidMap.size, PidMap.values, List.length_map] at counted bounded
  omega

/-! ### Every operation keeps the invariant -/

/-- The invariant from the links of the records instead of their sets of children. -/
theorem WellFormed.of_links
    (records : ∀ pid record, table.find? pid = some record →
      record.pid = pid ∧ pid.number < table.nextPid ∧
        (record.space.isSome = true ↔ record.state = .running))
    (next_le : table.nextPid ≤ table.maxPid + 1)
    (counted : table.running = table.records.sum runningWeight)
    (linked : ∀ caller target, table.hasChild caller target = true ↔ table.IsChild caller target)
    (ordered : ∀ pid creator, table.parentOf? pid = some creator → creator.number < pid.number) :
    table.WellFormed where
  pid_eq present := (records _ _ present).1
  below_next present := (records _ _ present).2.1
  next_le := next_le
  running_eq := by
    rw [runningCount_eq_sum]
    exact counted
  child_iff := child_iff_iff_hasChild_iff.mpr linked
  parent_lt present named := ordered _ _ (parentOf?_eq_some_iff.mpr ⟨_, present, named⟩)
  space_iff present := (records _ _ present).2.2

theorem wellFormed_ofMaxPid (maxPid : Nat) : (ofMaxPid maxPid).WellFormed := by
  have empty : ∀ pid, (ofMaxPid maxPid).find? pid = none := fun _ => rfl
  apply WellFormed.of_links
  · intro pid record present
    simp [empty] at present
  · simp [ofMaxPid]
  · rfl
  · intro caller target
    simp [hasChild_iff, IsChild, contains_iff, empty]
  · intro pid creator named
    simp [parentOf?, empty] at named

theorem WellFormed.entered (wellFormed : table.WellFormed) (inRange : table.nextPid ≤ table.maxPid)
    (known : ∀ creator, parent = some creator → table.contains creator = true) :
    (table.entered parent).WellFormed := by
  have fresh := wellFormed.find?_nextPid
  apply WellFormed.of_links
  · intro pid record present
    rcases find?_entered_cases present with ⟨rfl, rfl⟩ | ⟨earlier, children, found, rfl⟩
    · simp [ProcessRecord.newborn, ProcessTable.entered]
    · have below := wellFormed.below_next found
      have samePid := wellFormed.pid_eq found
      have owner := wellFormed.space_iff found
      refine ⟨samePid, ?_, owner⟩
      simp only [ProcessTable.entered]
      omega
  · simp only [ProcessTable.entered]
    omega
  · rw [sum_entered ignoresChildren_runningWeight fresh, ← wellFormed.running_eq_sum]
    simp [runningWeight, ProcessRecord.newborn, ProcessTable.entered]
  · intro caller target
    rw [hasChild_entered, IsChild, contains_entered, parentOf?_entered,
      wellFormed.hasChild_iff_isChild, IsChild]
    -- Nobody names the newcomer as parent yet, although its pid may have been in use before.
    have unnamed := wellFormed.parentOf?_ne_nextPid target
    have absent : table.contains ⟨table.nextPid⟩ = false := by
      rw [← Bool.not_eq_true, contains_iff]
      simp [fresh]
    have newcomer : table.parentOf? ⟨table.nextPid⟩ = none := by
      simp [parentOf?, fresh]
    grind
  · intro pid creator named
    rw [parentOf?_entered] at named
    split at named
    · rename_i same
      rcases contains_iff.mp (known creator named) with ⟨record, present⟩
      have below := wellFormed.below_next present
      simpa [same] using below
    · exact wellFormed.lt_of_parentOf? named

theorem WellFormed.activated (wellFormed : table.WellFormed) {space : AddressSpace}
    (embryo : table.stateOf? pid = some .embryo) : (table.activated pid space).WellFormed := by
  rcases stateOf?_eq_some_iff.mp embryo with ⟨record, present, state⟩
  apply WellFormed.of_links
  · intro other later found
    rw [find?_activated] at found
    split at found
    · rcases Option.map_eq_some_iff.mp found with ⟨earlier, old, rfl⟩
      have samePid := wellFormed.pid_eq old
      exact ⟨samePid, wellFormed.below_next old, by simp⟩
    · exact ⟨wellFormed.pid_eq found, wellFormed.below_next found, wellFormed.space_iff found⟩
  · exact wellFormed.next_le
  · have before := wellFormed.running_eq_sum
    rw [PidMap.sum_of_find?_eq_some _ present,
      runningWeight_of_not_running (by simp [state])] at before
    rw [sum_activated present, runningWeight_of_running rfl]
    simp only [ProcessTable.activated]
    omega
  · intro caller target
    rw [hasChild_activated, IsChild, contains_activated, parentOf?_activated]
    exact wellFormed.hasChild_iff_isChild caller target
  · intro other creator named
    rw [parentOf?_activated] at named
    exact wellFormed.lt_of_parentOf? named

theorem WellFormed.withdraw (wellFormed : table.WellFormed) (pid : Pid) :
    (table.withdraw pid).2.WellFormed := by
  cases present : table.find? pid with
  | none =>
      rw [withdraw_of_find?_eq_none present]
      exact wellFormed
  | some record =>
      have below := wellFormed.below_next present
      apply WellFormed.of_links
      · intro other later found
        rcases find?_withdraw_cases found with ⟨different, earlier, children, old, rfl⟩
        have samePid := wellFormed.pid_eq old
        have owner := wellFormed.space_iff old
        exact ⟨samePid, lt_nextPid_withdraw different (wellFormed.below_next old), owner⟩
      · have bounded := wellFormed.next_le
        rw [nextPid_withdraw present, maxPid_withdraw]
        split <;> omega
      · have before := wellFormed.running_eq_sum
        rw [PidMap.sum_of_find?_eq_some _ present] at before
        rw [sum_withdraw ignoresChildren_runningWeight present, running_withdraw present]
        by_cases running : record.state = .running
        · rw [runningWeight_of_running running] at before
          rw [if_pos running]
          omega
        · rw [runningWeight_of_not_running running] at before
          rw [if_neg running]
          omega
      · intro caller target
        rw [hasChild_withdraw, IsChild, contains_withdraw, parentOf?_withdraw,
          wellFormed.hasChild_iff_isChild, IsChild]
        grind
      · intro other creator named
        rw [parentOf?_withdraw] at named
        split at named
        · cases named
        · exact wellFormed.lt_of_parentOf? named

theorem WellFormed.terminated (wellFormed : table.WellFormed) {status : Option Int32}
    (running : table.stateOf? pid = some .running) : (table.terminated pid status).WellFormed := by
  rcases stateOf?_eq_some_iff.mp running with ⟨record, present, state⟩
  apply WellFormed.of_links
  · intro other later found
    rw [find?_terminated] at found
    split at found
    · rcases Option.map_eq_some_iff.mp found with ⟨earlier, old, rfl⟩
      have samePid := wellFormed.pid_eq old
      exact ⟨samePid, wellFormed.below_next old, by simp⟩
    · exact ⟨wellFormed.pid_eq found, wellFormed.below_next found, wellFormed.space_iff found⟩
  · exact wellFormed.next_le
  · have before := wellFormed.running_eq_sum
    rw [PidMap.sum_of_find?_eq_some _ present, runningWeight_of_running state] at before
    rw [sum_terminated present, runningWeight_of_not_running (by simp)]
    simp only [ProcessTable.terminated]
    omega
  · intro caller target
    rw [hasChild_terminated, IsChild, contains_terminated, parentOf?_terminated]
    exact wellFormed.hasChild_iff_isChild caller target
  · intro other creator named
    rw [parentOf?_terminated] at named
    exact wellFormed.lt_of_parentOf? named

theorem WellFormed.collected (wellFormed : table.WellFormed) {termination : Termination}
    (child : table.IsChild caller target)
    (ended : table.stateOf? target = some (.exited termination)) :
    (table.collected caller target).WellFormed := by
  rcases stateOf?_eq_some_iff.mp ended with ⟨record, present, state⟩
  apply WellFormed.of_links
  · intro other later found
    rcases find?_collected_cases found with ⟨_, earlier, children, old, rfl⟩
    have samePid := wellFormed.pid_eq old
    have owner := wellFormed.space_iff old
    exact ⟨samePid, wellFormed.below_next old, owner⟩
  · exact wellFormed.next_le
  · have before := wellFormed.running_eq_sum
    rw [PidMap.sum_of_find?_eq_some _ present,
      runningWeight_of_not_running (by simp [state]), zero_add] at before
    rw [sum_collected ignoresChildren_runningWeight]
    exact before
  · intro other descendant
    rw [hasChild_collected, IsChild, contains_collected, parentOf?_collected,
      wellFormed.hasChild_iff_isChild, IsChild]
    have parent := child.2
    grind
  · intro other creator named
    rw [parentOf?_collected] at named
    split at named
    · cases named
    · exact wellFormed.lt_of_parentOf? named

end ProcessTable

end Lifecycle
