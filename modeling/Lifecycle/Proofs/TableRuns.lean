import Lifecycle.Proofs.WellFormed

/-!
# Runs of the process table

A run applies any operations, with any arguments and in any order, to a table that starts empty; an
operation that is turned down leaves the table as it is. Every table of a run is well formed.

From the invariant follows what callers rely on. No counter leaves its range, an entry among the
children always leads to a record, and what `collect` and `isLastRunning` answer is determined by
the parents and states of the records alone.
-/

namespace Lifecycle

/-- An entry of a list is the last one or lies before it. -/
theorem append_singleton_eq_append_cons {α : Type} {prior earlier rest : List α} {last entry : α}
    (same : prior ++ [last] = earlier ++ entry :: rest) :
    prior = earlier ∧ last = entry ∨ ∃ shorter, prior = earlier ++ entry :: shorter := by
  rcases List.eq_nil_or_concat rest with rfl | ⟨shorter, final, rfl⟩
  · rcases List.append_inj' same rfl with ⟨rfl, alike⟩
    cases alike
    exact Or.inl ⟨rfl, rfl⟩
  · rw [List.concat_eq_append, ← List.cons_append, ← List.append_assoc] at same
    rcases List.append_inj' same rfl with ⟨rfl, _⟩
    exact Or.inr ⟨shorter, rfl⟩

namespace ProcessTable

variable {table : ProcessTable} {pid caller target : Pid}

/-! ### What collecting answers -/

theorem WellFormed.collect_of_not_isChild (wellFormed : table.WellFormed)
    (stranger : ¬table.IsChild caller target) : table.collect caller target = (.notAChild, table) := by
  have absent : table.hasChild caller target = false := by
    rw [← Bool.not_eq_true, wellFormed.hasChild_iff_isChild]
    exact stranger
  simp [collect, absent]

theorem WellFormed.collect_of_exited (wellFormed : table.WellFormed) {termination : Termination}
    (child : table.IsChild caller target)
    (ended : table.stateOf? target = some (.exited termination)) :
    table.collect caller target = (.completed termination, table.collected caller target) := by
  have entry := (wellFormed.hasChild_iff_isChild caller target).mpr child
  simp [collect, entry, ended, ProcessTable.collected]

theorem WellFormed.collect_of_unfinished (wellFormed : table.WellFormed)
    (child : table.IsChild caller target)
    (unfinished : ∀ termination, table.stateOf? target ≠ some (.exited termination)) :
    table.collect caller target = (.stillRunning, table) := by
  have entry := (wellFormed.hasChild_iff_isChild caller target).mpr child
  rcases parentOf?_eq_some_iff.mp child.2 with ⟨record, present, _⟩
  have state : table.stateOf? target = some record.state := by simp [stateOf?, present]
  cases shape : record.state with
  | embryo => simp [collect, entry, state, shape]
  | running => simp [collect, entry, state, shape]
  | exited termination =>
      rw [shape] at state
      exact absurd state (unfinished termination)

/-- The three ways in which an attempt to collect goes. -/
theorem WellFormed.collect_cases (wellFormed : table.WellFormed) (caller target : Pid) :
    ¬table.IsChild caller target ∧ table.collect caller target = (.notAChild, table) ∨
      (∃ termination, table.IsChild caller target ∧
        table.stateOf? target = some (.exited termination) ∧
        table.collect caller target = (.completed termination, table.collected caller target)) ∨
      table.IsChild caller target ∧
        (table.stateOf? target = some .embryo ∨ table.stateOf? target = some .running) ∧
        table.collect caller target = (.stillRunning, table) := by
  by_cases child : table.IsChild caller target
  · right
    rcases parentOf?_eq_some_iff.mp child.2 with ⟨record, present, _⟩
    have state : table.stateOf? target = some record.state := by simp [stateOf?, present]
    cases shape : record.state with
    | embryo =>
        rw [shape] at state
        have answer := wellFormed.collect_of_unfinished child (by simp [state])
        exact Or.inr ⟨child, Or.inl state, answer⟩
    | running =>
        rw [shape] at state
        have answer := wellFormed.collect_of_unfinished child (by simp [state])
        exact Or.inr ⟨child, Or.inr state, answer⟩
    | exited termination =>
        rw [shape] at state
        exact Or.inl ⟨termination, child, state, wellFormed.collect_of_exited child state⟩
  · exact Or.inl ⟨child, wellFormed.collect_of_not_isChild child⟩

/-- Being the last process that runs is a matter of the states alone. -/
theorem WellFormed.isLastRunning_iff (wellFormed : table.WellFormed) :
    table.isLastRunning caller = true ↔
      table.stateOf? caller = some .running ∧
        ∀ other, table.stateOf? other = some .running → other = caller := by
  have split : ∀ record, table.find? caller = some record → record.state = .running →
      table.running = 1 + (table.records.erase caller).sum runningWeight := by
    intro record present running
    rw [wellFormed.running_eq_sum, PidMap.sum_of_find?_eq_some _ present,
      runningWeight_of_running running]
  simp only [isLastRunning, Bool.and_eq_true, beq_iff_eq, decide_eq_true_eq]
  constructor
  · rintro ⟨alone, state⟩
    refine ⟨state, ?_⟩
    intro other otherState
    rcases stateOf?_eq_some_iff.mp state with ⟨record, present, running⟩
    rcases stateOf?_eq_some_iff.mp otherState with ⟨otherRecord, otherPresent, otherRunning⟩
    by_contra different
    have remains : (table.records.erase caller).find? other = some otherRecord := by
      rw [PidMap.find?_erase, if_neg (Ne.symm different)]
      exact otherPresent
    have counted := split record present running
    rw [PidMap.sum_of_find?_eq_some _ remains, runningWeight_of_running otherRunning] at counted
    omega
  · rintro ⟨state, only⟩
    refine ⟨?_, state⟩
    rcases stateOf?_eq_some_iff.mp state with ⟨record, present, running⟩
    have othersIdle : (table.records.erase caller).sum runningWeight = 0 := by
      apply PidMap.sum_eq_zero
      intro other otherRecord found
      rw [PidMap.find?_erase] at found
      split at found
      · cases found
      · rename_i different
        apply runningWeight_of_not_running
        intro otherRunning
        have same := only other (stateOf?_eq_some_iff.mpr ⟨otherRecord, found, otherRunning⟩)
        exact different same.symm
    rw [split record present running, othersIdle]

/-! ### Runs -/

/-- An operation with its arguments. -/
inductive Operation where
  | reserve (parent : Option Pid)
  | activate (pid : Pid) (space : AddressSpace)
  | withdraw (pid : Pid)
  | terminate (pid : Pid) (status : Option Int32)
  | collect (caller target : Pid)

/-- The process that the operation withdraws. -/
def Operation.withdrawn? : Operation → Option Pid
  | .withdraw pid => some pid
  | _ => none

/-- The table after an operation; one that is turned down changes nothing. -/
def apply (table : ProcessTable) : Operation → ProcessTable
  | .reserve parent =>
      match table.reserve parent with
      | .ok (_, next) => next
      | .error _ => table
  | .activate pid space =>
      match table.activate pid space with
      | .ok next => next
      | .error _ => table
  | .withdraw pid => (table.withdraw pid).2
  | .terminate pid status =>
      match table.terminate pid status with
      | .ok (_, next) => next
      | .error _ => table
  | .collect caller target => (table.collect caller target).2

/-- The table after operations in order. -/
def run (operations : List Operation) (table : ProcessTable) : ProcessTable :=
  operations.foldl apply table

/-- When an operation has an effect, and the table that it leaves then. -/
inductive Changes (table : ProcessTable) : Operation → ProcessTable → Prop
  | entered {parent : Option Pid} (inRange : table.nextPid ≤ table.maxPid)
      (known : ∀ creator, parent = some creator → table.contains creator = true) :
      Changes table (.reserve parent) (table.entered parent)
  | activated {pid : Pid} {space : AddressSpace} (embryo : table.stateOf? pid = some .embryo) :
      Changes table (.activate pid space) (table.activated pid space)
  | withdrawn {pid : Pid} (present : table.contains pid = true) :
      Changes table (.withdraw pid) (table.withdraw pid).2
  | terminated {pid : Pid} {status : Option Int32} (running : table.stateOf? pid = some .running) :
      Changes table (.terminate pid status) (table.terminated pid status)
  | collected {caller target : Pid} {termination : Termination}
      (child : table.IsChild caller target)
      (ended : table.stateOf? target = some (.exited termination)) :
      Changes table (.collect caller target) (table.collected caller target)

variable {operation : Operation} {next : ProcessTable}

theorem withdraw_cases (table : ProcessTable) (pid : Pid) :
    (table.withdraw pid).2 = table ∨ table.Changes (.withdraw pid) (table.withdraw pid).2 := by
  cases present : table.find? pid with
  | none => exact Or.inl (congrArg Prod.snd (withdraw_of_find?_eq_none present))
  | some record => exact Or.inr (.withdrawn (contains_iff.mpr ⟨record, present⟩))

/-- An operation has its effect, or none at all. -/
theorem WellFormed.apply_cases (wellFormed : table.WellFormed) (operation : Operation) :
    table.apply operation = table ∨ table.Changes operation (table.apply operation) := by
  cases operation with
  | reserve parent =>
      simp only [apply]
      split
      · rename_i pid next reserved
        rcases reserve_eq_ok_iff.mp reserved with ⟨inRange, known, _, rfl⟩
        exact Or.inr (.entered inRange known)
      · exact Or.inl rfl
  | activate pid space =>
      simp only [apply]
      split
      · rename_i next activated
        rcases activate_eq_ok_iff.mp activated with ⟨embryo, rfl⟩
        exact Or.inr (.activated embryo)
      · exact Or.inl rfl
  | withdraw pid => exact withdraw_cases table pid
  | terminate pid status =>
      simp only [apply]
      split
      · rename_i departure next terminated
        rcases terminate_eq_ok_iff.mp terminated with ⟨record, present, running, _, rfl⟩
        exact Or.inr (.terminated (stateOf?_eq_some_iff.mpr ⟨record, present, running⟩))
      · exact Or.inl rfl
  | collect caller target =>
      simp only [apply]
      rcases wellFormed.collect_cases caller target with
        ⟨_, answer⟩ | ⟨termination, child, ended, answer⟩ | ⟨_, _, answer⟩
      · rw [answer]
        exact Or.inl rfl
      · rw [answer]
        exact Or.inr (.collected child ended)
      · rw [answer]
        exact Or.inl rfl

theorem Changes.wellFormed (changes : table.Changes operation next)
    (wellFormed : table.WellFormed) : next.WellFormed := by
  cases changes with
  | entered inRange known => exact wellFormed.entered inRange known
  | activated embryo => exact wellFormed.activated embryo
  | withdrawn present => exact wellFormed.withdraw _
  | terminated running => exact wellFormed.terminated running
  | collected child ended => exact wellFormed.collected child ended

/-- The pid was handed out and has no record any more. -/
def Retired (table : ProcessTable) (pid : Pid) : Prop :=
  table.find? pid = none ∧ pid.number < table.nextPid

/-- The counter goes back to a pid only with the withdrawal of that pid as the newest. -/
theorem Changes.lt_or_withdraw (changes : table.Changes operation next)
    (below : pid.number < table.nextPid) :
    pid.number < next.nextPid ∨
      operation = .withdraw pid ∧ table.contains pid = true ∧ table.nextPid = pid.number + 1 := by
  cases changes with
  | entered inRange known => exact Or.inl (Nat.lt_succ_of_lt below)
  | withdrawn present =>
      rename_i failed
      by_cases same : failed = pid
      · subst failed
        rcases contains_iff.mp present with ⟨record, found⟩
        rw [nextPid_withdraw found]
        by_cases newest : pid.number + 1 = table.nextPid
        · exact Or.inr ⟨rfl, present, newest.symm⟩
        · rw [if_neg newest]
          exact Or.inl below
      · exact Or.inl (lt_nextPid_withdraw same below)
  | _ => exact Or.inl below

theorem Changes.retired (changes : table.Changes operation next) (retired : table.Retired pid) :
    next.Retired pid := by
  rcases retired with ⟨absent, below⟩
  refine ⟨?_, ?_⟩
  · cases changes with
    | entered inRange known => simp [find?_entered, Pid.ne_of_lt below, absent]
    | activated embryo => simp [find?_activated, absent]
    | withdrawn present => simp [find?_withdraw, absent]
    | terminated running => simp [find?_terminated, absent]
    | collected child ended => simp [find?_collected, absent]
  · rcases changes.lt_or_withdraw below with kept | ⟨_, present, _⟩
    · exact kept
    · rcases contains_iff.mp present with ⟨record, found⟩
      rw [absent] at found
      cases found

theorem WellFormed.apply (wellFormed : table.WellFormed) (operation : Operation) :
    (table.apply operation).WellFormed := by
  rcases wellFormed.apply_cases operation with unchanged | changes
  · rw [unchanged]
    exact wellFormed
  · exact changes.wellFormed wellFormed

theorem maxPid_apply (operation : Operation) : (table.apply operation).maxPid = table.maxPid := by
  cases operation with
  | reserve parent =>
      simp only [apply]
      split
      · rename_i pid next reserved
        rcases reserve_eq_ok_iff.mp reserved with ⟨_, _, _, rfl⟩
        rfl
      · rfl
  | activate pid space =>
      simp only [apply]
      split
      · rename_i next activated
        rcases activate_eq_ok_iff.mp activated with ⟨_, rfl⟩
        rfl
      · rfl
  | withdraw pid => exact maxPid_withdraw
  | terminate pid status =>
      simp only [apply]
      split
      · rename_i departure next terminated
        rcases terminate_eq_ok_iff.mp terminated with ⟨_, _, _, _, rfl⟩
        rfl
      · rfl
  | collect caller target =>
      simp only [apply, collect]
      split
      · split <;> rfl
      · rfl

theorem WellFormed.run (wellFormed : table.WellFormed) (operations : List Operation) :
    (table.run operations).WellFormed := by
  induction operations generalizing table with
  | nil => exact wellFormed
  | cons operation rest ih => exact ih (wellFormed.apply operation)

theorem maxPid_run (operations : List Operation) : (table.run operations).maxPid = table.maxPid := by
  induction operations generalizing table with
  | nil => rfl
  | cons operation rest ih => exact ih.trans (maxPid_apply operation)

/-! ### What callers rely on -/

/-- Counters stay in range, and the answers are determined by parents and states alone. -/
structure Reliable (table : ProcessTable) : Prop where
  next_fits : table.nextPid + 1 < 2 ^ 32
  running_fits : table.running + 1 < 2 ^ 32
  issued_fits : ∀ {parent pid next}, table.reserve parent = .ok (pid, next) →
    pid.toInt32? = some (Int32.ofNat pid.number)
  /-- The counter can be lowered for every process that runs. -/
  running_pos : ∀ {pid record}, table.find? pid = some record → record.state = .running →
    0 < table.running
  /-- No set of children holds a process without a record. -/
  child_known : ∀ {caller target}, table.hasChild caller target = true →
    table.stateOf? target ≠ none
  notAChild_iff : ∀ caller target, (table.collect caller target).1 = .notAChild ↔
    ¬((∃ record, table.find? caller = some record) ∧
      ∃ record, table.find? target = some record ∧ record.parent = some caller)
  completed_iff : ∀ caller target termination,
    (table.collect caller target).1 = .completed termination ↔
      (∃ record, table.find? caller = some record) ∧
        ∃ record, table.find? target = some record ∧ record.parent = some caller ∧
          record.state = .exited termination
  stillRunning_iff : ∀ caller target, (table.collect caller target).1 = .stillRunning ↔
    (∃ record, table.find? caller = some record) ∧
      ∃ record, table.find? target = some record ∧ record.parent = some caller ∧
        (record.state = .embryo ∨ record.state = .running)
  isLastRunning_iff : ∀ caller, table.isLastRunning caller = true ↔
    table.stateOf? caller = some .running ∧
      ∀ other, table.stateOf? other = some .running → other = caller

theorem isChild_iff :
    table.IsChild caller target ↔
      (∃ record, table.find? caller = some record) ∧
        ∃ record, table.find? target = some record ∧ record.parent = some caller := by
  rw [IsChild, contains_iff, parentOf?_eq_some_iff]

/-- A child in a state, as one record. -/
theorem isChild_and_state_iff (holds : ProcessState → Prop) :
    (table.IsChild caller target ∧ ∃ state, table.stateOf? target = some state ∧ holds state) ↔
      (∃ record, table.find? caller = some record) ∧
        ∃ record, table.find? target = some record ∧ record.parent = some caller ∧
          holds record.state := by
  rw [isChild_iff]
  constructor
  · rintro ⟨⟨known, record, present, named⟩, state, found, property⟩
    simp only [stateOf?, present, Option.map_some, Option.some.injEq] at found
    exact ⟨known, record, present, named, found ▸ property⟩
  · rintro ⟨known, record, present, named, property⟩
    exact ⟨⟨known, record, present, named⟩, record.state, by simp [stateOf?, present], property⟩

theorem WellFormed.reliable (wellFormed : table.WellFormed) (capped : table.maxPid ≤ pidLimit) :
    table.Reliable where
  next_fits := by
    have bounded := wellFormed.next_le
    simp only [pidLimit] at capped
    omega
  running_fits := by
    have bounded := wellFormed.next_le
    have counted := wellFormed.running_le
    simp only [pidLimit] at capped
    omega
  issued_fits reserved := by
    rcases reserve_eq_ok_iff.mp reserved with ⟨inRange, _, rfl, _⟩
    have fits : table.nextPid ≤ pidLimit := by omega
    simp [Pid.toInt32?, fits]
  running_pos present running := wellFormed.running_pos present running
  child_known entry := by
    rcases (wellFormed.hasChild_iff_isChild _ _).mp entry with ⟨_, named⟩
    rcases parentOf?_eq_some_iff.mp named with ⟨record, present, _⟩
    simp [stateOf?, present]
  notAChild_iff caller target := by
    rw [← isChild_iff]
    rcases wellFormed.collect_cases caller target with
      ⟨stranger, answer⟩ | ⟨_, child, _, answer⟩ | ⟨child, _, answer⟩
    · simp [answer, stranger]
    · simp [answer, child]
    · simp [answer, child]
  completed_iff caller target termination := by
    rw [← isChild_and_state_iff fun state => state = .exited termination]
    rcases wellFormed.collect_cases caller target with
      ⟨stranger, answer⟩ | ⟨_, child, ended, answer⟩ | ⟨child, embryo | running, answer⟩
    · simp [answer, stranger]
    · simp [answer, child, ended]
    · simp [answer, embryo]
    · simp [answer, running]
  stillRunning_iff caller target := by
    rw [← isChild_and_state_iff fun state => state = .embryo ∨ state = .running]
    rcases wellFormed.collect_cases caller target with
      ⟨stranger, answer⟩ | ⟨_, child, ended, answer⟩ | ⟨child, embryo | running, answer⟩
    · simp [answer, stranger]
    · simp [answer, ended]
    · simp [answer, child, embryo]
    · simp [answer, child, running]
  isLastRunning_iff _ := wellFormed.isLastRunning_iff

/--
Whatever operations are applied to an empty table, in whatever order, the result is well formed, its
counter stays within the capped range of pids, and callers can rely on it.
-/
theorem representation_invariant (maxPid : Nat) (operations : List Operation) :
    ((ofMaxPid maxPid).run operations).WellFormed ∧
      ((ofMaxPid maxPid).run operations).nextPid ≤ min maxPid pidLimit + 1 ∧
      ((ofMaxPid maxPid).run operations).Reliable := by
  have wellFormed := (wellFormed_ofMaxPid maxPid).run operations
  have range : ((ofMaxPid maxPid).run operations).maxPid = min maxPid pidLimit :=
    maxPid_run operations
  have bounded := wellFormed.next_le
  rw [range] at bounded
  refine ⟨wellFormed, bounded, wellFormed.reliable ?_⟩
  rw [range]
  exact Nat.min_le_right maxPid pidLimit

end ProcessTable

end Lifecycle
