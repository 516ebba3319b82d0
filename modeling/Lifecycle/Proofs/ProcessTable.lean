import Lifecycle.ProcessTable
import Lifecycle.Proofs.PidMap

/-!
# Operations of the process table

What each operation of the process table leaves, as one equation for the whole table and one for the
lookups. A total function stands for what an operation does when it succeeds, and the condition
under which it succeeds is stated beside it, so later arguments never open an operation again.

Reserving, activating, ending and collecting a process change the sum of any quantity over the
records by the contribution of that one process, provided that the quantity does not depend on the
sets of children. The number of running processes and the frames they own are such quantities.
-/

namespace Lifecycle

namespace PidMap

variable {α : Type}

@[simp]
theorem contains_empty (pid : Pid) : (∅ : PidMap α).contains pid = false := rfl

@[simp]
theorem contains_insert (map : PidMap α) (pid key : Pid) (value : α) :
    (map.insert pid value).contains key = (decide (pid = key) || map.contains key) := by
  by_cases same : pid = key <;> simp [contains, find?_insert, same]

@[simp]
theorem contains_erase (map : PidMap α) (pid key : Pid) :
    (map.erase pid).contains key = (!decide (pid = key) && map.contains key) := by
  by_cases same : pid = key <;> simp [contains, find?_erase, same]

end PidMap

namespace ProcessTable

variable {table next : ProcessTable} {pid other caller target : Pid} {parent : Option Pid}
  {record : ProcessRecord}

/-- The process that created a process, if both are known. -/
def parentOf? (table : ProcessTable) (pid : Pid) : Option Pid :=
  (table.find? pid).bind ProcessRecord.parent

/-- `target` has a record that names `caller`, which has one too, as its parent. -/
def IsChild (table : ProcessTable) (caller target : Pid) : Prop :=
  table.contains caller = true ∧ table.parentOf? target = some caller

theorem contains_iff : table.contains pid = true ↔ ∃ record, table.find? pid = some record := by
  simp [contains, PidMap.contains, find?, Option.isSome_iff_exists]

theorem parentOf?_of_find?_eq_some (present : table.find? pid = some record) :
    table.parentOf? pid = record.parent := by
  simp [parentOf?, present]

theorem stateOf?_eq_some_iff {state : ProcessState} :
    table.stateOf? pid = some state ↔
      ∃ record, table.find? pid = some record ∧ record.state = state := by
  simp [stateOf?]

theorem hasChild_iff :
    table.hasChild caller target = true ↔
      ∃ record, table.find? caller = some record ∧ record.children.contains target = true := by
  unfold hasChild
  cases table.find? caller <;> simp

/-- What a function tells about a record does not depend on its set of children. -/
def IgnoresChildren {β : Type} (view : ProcessRecord → β) : Prop :=
  ∀ record children, view { record with children := children } = view record

theorem ignoresChildren_state : IgnoresChildren ProcessRecord.state := fun _ _ => rfl

theorem ignoresChildren_parent : IgnoresChildren ProcessRecord.parent := fun _ _ => rfl

theorem IgnoresChildren.map_adopt {β : Type} {view : ProcessRecord → β}
    (ignores : IgnoresChildren view) (child : Pid) (found : Option ProcessRecord) :
    (found.map (.adopt child)).map view = found.map view := by
  cases found with
  | none => rfl
  | some record => exact congrArg some (ignores record _)

theorem IgnoresChildren.map_disown {β : Type} {view : ProcessRecord → β}
    (ignores : IgnoresChildren view) (child : Pid) (found : Option ProcessRecord) :
    (found.map (.disown child)).map view = found.map view := by
  cases found with
  | none => rfl
  | some record => exact congrArg some (ignores record _)

theorem parentOf?_eq_join :
    table.parentOf? pid = ((table.find? pid).map ProcessRecord.parent).join := by
  cases present : table.find? pid <;> simp [parentOf?, present]

/-! ### Reserving -/

/-- The table after the next pid went to a new child of `parent`. -/
def entered (table : ProcessTable) (parent : Option Pid) : ProcessTable where
  records :=
    (match parent with
      | none => table.records
      | some creator => table.records.modify creator (.adopt ⟨table.nextPid⟩)).insert
        ⟨table.nextPid⟩ (.newborn ⟨table.nextPid⟩ parent)
  nextPid := table.nextPid + 1
  running := table.running
  maxPid := table.maxPid

theorem reserve_eq_ok_iff :
    table.reserve parent = .ok (pid, next) ↔
      table.nextPid ≤ table.maxPid ∧ (∀ creator, parent = some creator → table.contains creator) ∧
        pid = ⟨table.nextPid⟩ ∧ next = table.entered parent := by
  unfold reserve
  cases parent with
  | none => grind [entered]
  | some creator => grind [entered]

theorem reserve_eq_exhausted_iff :
    table.reserve parent = .error .pidSpaceExhausted ↔ table.maxPid < table.nextPid := by
  unfold reserve
  cases parent with
  | none => grind
  | some creator => grind

/-- A reservation fails because no pid is left or, if there is one, because of the parent. -/
theorem reserve_eq_error_cases {cause : TableError} (refused : table.reserve parent = .error cause) :
    cause = .pidSpaceExhausted ∧ table.maxPid < table.nextPid ∨
      ∃ creator, cause = .noSuchProcess creator ∧ table.nextPid ≤ table.maxPid ∧
        parent = some creator ∧ table.contains creator = false := by
  unfold reserve at refused
  cases parent with
  | none => grind
  | some creator => grind

theorem find?_entered :
    (table.entered parent).find? pid =
      if pid = ⟨table.nextPid⟩ then some (.newborn ⟨table.nextPid⟩ parent)
      else if parent = some pid then (table.find? pid).map (.adopt ⟨table.nextPid⟩)
      else table.find? pid := by
  cases parent with
  | none => simp [entered, find?, PidMap.find?_insert, eq_comm]
  | some creator =>
      simp [entered, find?, PidMap.find?_insert, PidMap.find?_modify, eq_comm]

/-- After a reservation there is the newcomer, and other records have changed their children at most. -/
theorem find?_entered_cases (present : (table.entered parent).find? pid = some record) :
    pid = ⟨table.nextPid⟩ ∧ record = .newborn ⟨table.nextPid⟩ parent ∨
      ∃ earlier children, table.find? pid = some earlier ∧
        record = { earlier with children := children } := by
  rw [find?_entered] at present
  split at present
  · rename_i same
    cases present
    exact Or.inl ⟨same, rfl⟩
  · right
    split at present
    · rcases Option.map_eq_some_iff.mp present with ⟨earlier, found, rfl⟩
      exact ⟨earlier, _, found, rfl⟩
    · exact ⟨record, record.children, present, rfl⟩

theorem contains_entered :
    (table.entered parent).contains pid = true ↔
      pid = ⟨table.nextPid⟩ ∨ table.contains pid = true := by
  rw [contains_iff, contains_iff, find?_entered]
  by_cases same : pid = ⟨table.nextPid⟩
  · simp [same]
  · by_cases child : parent = some pid <;> simp [same, child]

theorem map_find?_entered {β : Type} {view : ProcessRecord → β} (ignores : IgnoresChildren view) :
    ((table.entered parent).find? pid).map view =
      if pid = ⟨table.nextPid⟩ then some (view (.newborn ⟨table.nextPid⟩ parent))
      else (table.find? pid).map view := by
  rw [find?_entered]
  split
  · rfl
  · split
    · exact ignores.map_adopt _ _
    · rfl

theorem parentOf?_entered :
    (table.entered parent).parentOf? pid =
      if pid = ⟨table.nextPid⟩ then parent else table.parentOf? pid := by
  rw [parentOf?_eq_join, map_find?_entered ignoresChildren_parent, parentOf?_eq_join]
  split <;> rfl

theorem stateOf?_entered :
    (table.entered parent).stateOf? pid =
      if pid = ⟨table.nextPid⟩ then some .embryo else table.stateOf? pid :=
  map_find?_entered ignoresChildren_state

theorem hasChild_entered :
    (table.entered parent).hasChild caller target = true ↔
      caller ≠ ⟨table.nextPid⟩ ∧
        (parent = some caller ∧ table.contains caller = true ∧ target = ⟨table.nextPid⟩ ∨
          table.hasChild caller target = true) := by
  rw [hasChild_iff, hasChild_iff, contains_iff, find?_entered]
  by_cases same : caller = ⟨table.nextPid⟩
  · simp [same, ProcessRecord.newborn]
  · by_cases child : parent = some caller
    · cases present : table.find? caller <;>
        simp [same, child, ProcessRecord.adopt, @eq_comm _ target]
    · simp [same, child]

/-! ### Activating -/

/-- The table after a process began to run with the memory `space`. -/
def activated (table : ProcessTable) (pid : Pid) (space : AddressSpace) : ProcessTable where
  records := table.records.modify pid fun record =>
    { record with state := .running, space := some space }
  nextPid := table.nextPid
  running := table.running + 1
  maxPid := table.maxPid

theorem activate_eq_ok_iff {space : AddressSpace} :
    table.activate pid space = .ok next ↔
      table.stateOf? pid = some .embryo ∧ next = table.activated pid space := by
  grind [activate, activated]

theorem find?_activated {space : AddressSpace} :
    (table.activated pid space).find? other =
      if pid = other then
        (table.find? other).map fun record =>
          { record with state := .running, space := some space }
      else table.find? other := by
  simp [activated, find?, PidMap.find?_modify]

theorem contains_activated {space : AddressSpace} :
    (table.activated pid space).contains other = table.contains other := by
  rw [Bool.eq_iff_iff, contains_iff, contains_iff, find?_activated]
  by_cases same : pid = other <;> simp [same]

theorem parentOf?_activated {space : AddressSpace} :
    (table.activated pid space).parentOf? other = table.parentOf? other := by
  rw [parentOf?, parentOf?, find?_activated]
  by_cases same : pid = other
  · cases table.find? other <;> simp [same]
  · simp [same]

theorem stateOf?_activated {space : AddressSpace} :
    (table.activated pid space).stateOf? other =
      if pid = other then (table.stateOf? other).map fun _ => .running
      else table.stateOf? other := by
  rw [stateOf?, stateOf?, find?_activated]
  by_cases same : pid = other
  · cases table.find? other <;> simp [same]
  · simp [same]

theorem hasChild_activated {space : AddressSpace} :
    (table.activated pid space).hasChild caller target = table.hasChild caller target := by
  rw [Bool.eq_iff_iff, hasChild_iff, hasChild_iff, find?_activated]
  by_cases same : pid = caller <;> simp [same]

/-! ### Withdrawing -/

theorem withdraw_of_find?_eq_none (absent : table.find? pid = none) :
    table.withdraw pid = (none, table) := by
  simp [withdraw, absent]

theorem fst_withdraw : (table.withdraw pid).1 = (table.find? pid).bind ProcessRecord.space := by
  unfold withdraw
  cases table.find? pid <;> rfl

@[simp]
theorem maxPid_withdraw : (table.withdraw pid).2.maxPid = table.maxPid := by
  unfold withdraw
  cases table.find? pid <;> rfl

theorem nextPid_withdraw (present : table.find? pid = some record) :
    (table.withdraw pid).2.nextPid =
      if pid.number + 1 = table.nextPid then pid.number else table.nextPid := by
  simp [withdraw, present]

theorem running_withdraw (present : table.find? pid = some record) :
    (table.withdraw pid).2.running =
      if record.state = .running then table.running - 1 else table.running := by
  simp [withdraw, present]

theorem find?_withdraw :
    (table.withdraw pid).2.find? other =
      if pid = other then none
      else if table.parentOf? pid = some other then (table.find? other).map (.disown pid)
      else table.find? other := by
  unfold withdraw
  cases present : table.find? pid with
  | none =>
      by_cases same : pid = other
      · subst other
        simp [present]
      · simp [parentOf?, present, same]
  | some record =>
      rw [parentOf?_of_find?_eq_some present]
      cases named : record.parent with
      | none => simp [named, find?, PidMap.find?_erase]
      | some creator =>
          by_cases same : pid = other <;> by_cases child : creator = other <;>
            simp [named, find?, PidMap.find?_erase, PidMap.find?_modify, same, child]

theorem find?_withdraw_cases (present : (table.withdraw pid).2.find? other = some record) :
    pid ≠ other ∧ ∃ earlier children, table.find? other = some earlier ∧
      record = { earlier with children := children } := by
  rw [find?_withdraw] at present
  split at present
  · cases present
  · rename_i different
    refine ⟨different, ?_⟩
    split at present
    · rcases Option.map_eq_some_iff.mp present with ⟨earlier, found, rfl⟩
      exact ⟨earlier, _, found, rfl⟩
    · exact ⟨record, record.children, present, rfl⟩

theorem contains_withdraw :
    (table.withdraw pid).2.contains other = true ↔ pid ≠ other ∧ table.contains other = true := by
  rw [contains_iff, contains_iff, find?_withdraw]
  by_cases same : pid = other
  · simp [same]
  · by_cases child : table.parentOf? pid = some other <;> simp [same, child]

theorem map_find?_withdraw {β : Type} {view : ProcessRecord → β} (ignores : IgnoresChildren view) :
    ((table.withdraw pid).2.find? other).map view =
      if pid = other then none else (table.find? other).map view := by
  rw [find?_withdraw]
  split
  · rfl
  · split
    · exact ignores.map_disown _ _
    · rfl

theorem parentOf?_withdraw :
    (table.withdraw pid).2.parentOf? other =
      if pid = other then none else table.parentOf? other := by
  rw [parentOf?_eq_join, map_find?_withdraw ignoresChildren_parent, parentOf?_eq_join]
  split <;> rfl

theorem stateOf?_withdraw :
    (table.withdraw pid).2.stateOf? other =
      if pid = other then none else table.stateOf? other :=
  map_find?_withdraw ignoresChildren_state

/-- Withdrawing a process never frees the pid of another one. -/
theorem lt_nextPid_withdraw (different : pid ≠ other) (below : other.number < table.nextPid) :
    other.number < (table.withdraw pid).2.nextPid := by
  cases present : table.find? pid with
  | none =>
      rw [withdraw_of_find?_eq_none present]
      exact below
  | some record =>
      have apart : pid.number ≠ other.number := fun same => different (Pid.ext same)
      rw [nextPid_withdraw present]
      split <;> omega

theorem hasChild_withdraw :
    (table.withdraw pid).2.hasChild caller target = true ↔
      pid ≠ caller ∧ ¬(table.parentOf? pid = some caller ∧ pid = target) ∧
        table.hasChild caller target = true := by
  rw [hasChild_iff, hasChild_iff, find?_withdraw]
  by_cases same : pid = caller
  · simp [same]
  · by_cases child : table.parentOf? pid = some caller
    · cases table.find? caller <;> simp [same, child, ProcessRecord.disown]
    · simp [same, child]

/-! ### Ending -/

/-- The table after a running process ended. -/
def terminated (table : ProcessTable) (pid : Pid) (status : Option Int32) : ProcessTable where
  records := table.records.modify pid fun record =>
    { record with state := .exited (.ofStatus status), space := none }
  nextPid := table.nextPid
  running := table.running - 1
  maxPid := table.maxPid

theorem terminate_eq_ok_iff {status : Option Int32} {departure : Departure} :
    table.terminate pid status = .ok (departure, next) ↔
      ∃ record, table.find? pid = some record ∧ record.state = .running ∧
        departure = ⟨record.space, table.running - 1⟩ ∧ next = table.terminated pid status := by
  unfold terminate
  cases table.find? pid with
  | none => simp
  | some record => by_cases running : record.state = .running <;> grind [terminated]

theorem exists_terminate_eq_error {status : Option Int32} (idle : table.stateOf? pid ≠ some .running) :
    ∃ cause, table.terminate pid status = .error cause := by
  unfold terminate
  cases present : table.find? pid with
  | none => exact ⟨_, rfl⟩
  | some record =>
      have ended : record.state ≠ .running := by
        intro running
        exact idle (stateOf?_eq_some_iff.mpr ⟨record, present, running⟩)
      simp [ended]

theorem find?_terminated {status : Option Int32} :
    (table.terminated pid status).find? other =
      if pid = other then
        (table.find? other).map fun record =>
          { record with state := .exited (.ofStatus status), space := none }
      else table.find? other := by
  simp [terminated, find?, PidMap.find?_modify]

theorem contains_terminated {status : Option Int32} :
    (table.terminated pid status).contains other = table.contains other := by
  rw [Bool.eq_iff_iff, contains_iff, contains_iff, find?_terminated]
  by_cases same : pid = other <;> simp [same]

theorem parentOf?_terminated {status : Option Int32} :
    (table.terminated pid status).parentOf? other = table.parentOf? other := by
  rw [parentOf?, parentOf?, find?_terminated]
  by_cases same : pid = other
  · cases table.find? other <;> simp [same]
  · simp [same]

theorem stateOf?_terminated {status : Option Int32} :
    (table.terminated pid status).stateOf? other =
      if pid = other then (table.stateOf? other).map fun _ => .exited (.ofStatus status)
      else table.stateOf? other := by
  rw [stateOf?, stateOf?, find?_terminated]
  by_cases same : pid = other
  · cases table.find? other <;> simp [same]
  · simp [same]

theorem hasChild_terminated {status : Option Int32} :
    (table.terminated pid status).hasChild caller target = table.hasChild caller target := by
  rw [Bool.eq_iff_iff, hasChild_iff, hasChild_iff, find?_terminated]
  by_cases same : pid = caller <;> simp [same]

/-! ### Collecting -/

/-- The table after `caller` collected `target`. -/
def collected (table : ProcessTable) (caller target : Pid) : ProcessTable where
  records := (table.records.modify caller (.disown target)).erase target
  nextPid := table.nextPid
  running := table.running
  maxPid := table.maxPid

theorem find?_collected :
    (table.collected caller target).find? other =
      if target = other then none
      else if caller = other then (table.find? other).map (.disown target)
      else table.find? other := by
  simp [collected, find?, PidMap.find?_modify, PidMap.find?_erase]

theorem find?_collected_cases (present : (table.collected caller target).find? other = some record) :
    target ≠ other ∧ ∃ earlier children, table.find? other = some earlier ∧
      record = { earlier with children := children } := by
  rw [find?_collected] at present
  split at present
  · cases present
  · rename_i different
    refine ⟨different, ?_⟩
    split at present
    · rcases Option.map_eq_some_iff.mp present with ⟨earlier, found, rfl⟩
      exact ⟨earlier, _, found, rfl⟩
    · exact ⟨record, record.children, present, rfl⟩

theorem contains_collected :
    (table.collected caller target).contains other = true ↔
      target ≠ other ∧ table.contains other = true := by
  rw [contains_iff, contains_iff, find?_collected]
  by_cases same : target = other
  · simp [same]
  · by_cases parent : caller = other <;> simp [same, parent]

theorem map_find?_collected {β : Type} {view : ProcessRecord → β} (ignores : IgnoresChildren view) :
    ((table.collected caller target).find? other).map view =
      if target = other then none else (table.find? other).map view := by
  rw [find?_collected]
  split
  · rfl
  · split
    · exact ignores.map_disown _ _
    · rfl

theorem parentOf?_collected :
    (table.collected caller target).parentOf? other =
      if target = other then none else table.parentOf? other := by
  rw [parentOf?_eq_join, map_find?_collected ignoresChildren_parent, parentOf?_eq_join]
  split <;> rfl

theorem stateOf?_collected :
    (table.collected caller target).stateOf? other =
      if target = other then none else table.stateOf? other :=
  map_find?_collected ignoresChildren_state

theorem hasChild_collected {child : Pid} :
    (table.collected caller target).hasChild other child = true ↔
      target ≠ other ∧ ¬(caller = other ∧ target = child) ∧ table.hasChild other child = true := by
  rw [hasChild_iff, hasChild_iff, find?_collected]
  by_cases same : target = other
  · simp [same]
  · by_cases parent : caller = other
    · cases table.find? other <;> simp [same, parent, ProcessRecord.disown]
    · simp [same, parent]

/-! ### Sums over all records -/

section Sums

variable {M : Type} [AddCommMonoid M] {weight : ProcessRecord → M}

theorem IgnoresChildren.sum_adopt (ignores : IgnoresChildren weight)
    (records : PidMap ProcessRecord) (creator child : Pid) :
    (records.modify creator (.adopt child)).sum weight = records.sum weight :=
  PidMap.sum_modify weight records creator fun record => ignores record _

theorem IgnoresChildren.sum_disown (ignores : IgnoresChildren weight)
    (records : PidMap ProcessRecord) (creator child : Pid) :
    (records.modify creator (.disown child)).sum weight = records.sum weight :=
  PidMap.sum_modify weight records creator fun record => ignores record _

theorem sum_entered (ignores : IgnoresChildren weight)
    (fresh : table.find? ⟨table.nextPid⟩ = none) :
    (table.entered parent).records.sum weight =
      weight (.newborn ⟨table.nextPid⟩ parent) + table.records.sum weight := by
  simp only [entered]
  rw [PidMap.sum_insert]
  cases parent with
  | none => rw [PidMap.erase_of_find?_eq_none fresh]
  | some creator =>
      have absent :
          (table.records.modify creator (.adopt ⟨table.nextPid⟩)).find? ⟨table.nextPid⟩ = none := by
        rw [find?] at fresh
        simp [PidMap.find?_modify, fresh]
      simp only
      rw [PidMap.erase_of_find?_eq_none absent, ignores.sum_adopt]

theorem sum_activated {space : AddressSpace} (present : table.find? pid = some record) :
    (table.activated pid space).records.sum weight =
      weight { record with state := .running, space := some space } +
        (table.records.erase pid).sum weight := by
  simp only [activated]
  rw [PidMap.modify_of_find?_eq_some present, PidMap.sum_insert]

theorem sum_terminated {status : Option Int32} (present : table.find? pid = some record) :
    (table.terminated pid status).records.sum weight =
      weight { record with state := .exited (.ofStatus status), space := none } +
        (table.records.erase pid).sum weight := by
  simp only [terminated]
  rw [PidMap.modify_of_find?_eq_some present, PidMap.sum_insert]

theorem sum_withdraw (ignores : IgnoresChildren weight) (present : table.find? pid = some record) :
    (table.withdraw pid).2.records.sum weight = (table.records.erase pid).sum weight := by
  simp only [withdraw, present]
  cases record.parent with
  | none => rfl
  | some creator => exact ignores.sum_disown (table.records.erase pid) creator pid

theorem sum_collected (ignores : IgnoresChildren weight) :
    (table.collected caller target).records.sum weight =
      (table.records.erase target).sum weight := by
  have exchanged :
      (table.records.modify caller (.disown target)).erase target =
        (table.records.erase target).modify caller (.disown target) := by
    apply PidMap.ext_find?
    intro key
    by_cases same : target = key <;> by_cases parent : caller = key <;>
      simp [PidMap.find?_erase, PidMap.find?_modify, same, parent]
  simp only [collected]
  rw [exchanged]
  exact ignores.sum_disown (table.records.erase target) caller target

end Sums

end ProcessTable

end Lifecycle
