import Lifecycle.Proofs.EngineRuns
import Lifecycle.Proofs.PageAccounts
import Lifecycle.Proofs.SealedMachines
import Lifecycle.Simulator

/-!
# Reports of stopped machines

What the report on a machine says about it, for all programs, schedules and configurations.

While a machine runs, its kernel is one that operations lead to, and its first process has the pid
zero and no parent. When an operation stops the machine, it tells why: no process runs any more, or
the one that asked for the stop is the only one that runs. A machine that has stopped does not change,
so this is still true when the report is made.
-/

namespace Lifecycle

open Activity (Step Sound)

/-! ### The first process -/

/-- Once a process was created, there is a process without a parent that has the first pid. -/
def ProcessTable.Rooted (table : ProcessTable) : Prop :=
  0 < table.nextPid → table.contains .root = true ∧ table.parentOf? .root = none

theorem Activity.Step.rooted {E : Type} {activity next : Activity E} {happening : Happening}
    {effects : List Effect} (step : Step activity happening effects next) (sound : activity.Sound)
    (kept : ∀ parent pid cause, happening ≠ .withdrawn parent pid cause)
    (rooted : activity.kernel.table.Rooted) : next.kernel.table.Rooted := by
  cases step with
  | launched inRange known built =>
      rename_i kernel pending parent name arguments entry space loader
      intro _
      simp only [Kernel.launched, ProcessTable.contains_activated, ProcessTable.contains_entered,
        ProcessTable.parentOf?_activated, ProcessTable.parentOf?_entered]
      by_cases first : Pid.root = ⟨kernel.table.nextPid⟩
      · -- There is no process yet that could be the parent.
        refine ⟨Or.inl first, ?_⟩
        rw [if_pos first]
        cases parent with
        | none => rfl
        | some creator =>
            rcases ProcessTable.contains_iff.mp (known creator rfl) with ⟨record, present⟩
            have below : creator.number < kernel.table.nextPid :=
              sound.wellFormed.below_next present
            have zero := congrArg Pid.number first
            simp only [Pid.root] at zero
            omega
      · have started : 0 < kernel.table.nextPid := by
          apply Nat.pos_of_ne_zero
          intro zero
          apply first
          rw [zero]
          rfl
        rcases rooted started with ⟨present, orphan⟩
        rw [if_neg first]
        exact ⟨Or.inr present, orphan⟩
  | withdrawn => exact absurd rfl (kept _ _ _)
  | collected looks child ended =>
      rename_i outer collector target termination
      intro started
      rcases rooted started with ⟨present, orphan⟩
      have different : target ≠ .root := by
        rintro rfl
        have named := child.2
        rw [orphan] at named
        cases named
      simp only [ProcessTable.contains_collected, ProcessTable.parentOf?_collected,
        if_neg different]
      exact ⟨⟨different, present⟩, orphan⟩
  | departed running =>
      intro started
      simp only [Kernel.departed, ProcessTable.contains_terminated,
        ProcessTable.parentOf?_terminated]
      exact rooted started
  | _ => exact rooted

/-! ### Why a machine stops -/

namespace Machine

/-- What is known of the processes when the machine stops for a reason. -/
structure StopsFor (table : ProcessTable) (halted : Option HaltReason) : Prop where
  started : halted.isSome = true → 0 < table.nextPid
  all_exited : halted = some .allExited → ∀ pid, table.stateOf? pid ≠ some .running
  requested : ∀ {caller}, halted = some (.requested caller) → table.OnlyRunning caller

theorem stopsFor_none (table : ProcessTable) : StopsFor table none where
  started stopped := by cases stopped
  all_exited stopped := by cases stopped
  requested stopped := by cases stopped

theorem stopsFor_exhausted {table : ProcessTable} (started : 0 < table.nextPid) :
    StopsFor table (some .pidSpaceExhausted) where
  started _ := started
  all_exited stopped := by cases stopped
  requested stopped := by cases stopped

theorem stopsFor_allExited {table : ProcessTable} (started : 0 < table.nextPid)
    (idle : ∀ pid, table.stateOf? pid ≠ some .running) : StopsFor table (some .allExited) where
  started _ := started
  all_exited _ := idle
  requested stopped := by cases stopped

theorem stopsFor_requested {table : ProcessTable} {caller : Pid} (started : 0 < table.nextPid)
    (only : table.OnlyRunning caller) : StopsFor table (some (.requested caller)) where
  started _ := started
  all_exited stopped := by cases stopped
  requested stopped := by
    cases stopped
    exact only

theorem stopsFor_of_step {activity next : Activity Main} {happening : Happening}
    {effects : List Effect} (step : Step activity happening effects next)
    (sound : activity.Sound) : StopsFor next.kernel.table (effects.foldl haltedBy none) := by
  cases step with
  | refused refuses =>
      cases refuses with
      | exhausted full => exact stopsFor_exhausted (by omega)
      | _ => exact stopsFor_none _
  | departed running =>
      rename_i kernel pending caller status
      rw [foldl_departureSignals]
      split
      · rename_i alone
        have only := (sound.wellFormed.running_eq_one_iff running).mp alone
        rcases ProcessTable.stateOf?_eq_some_iff.mp running with ⟨record, present, _⟩
        have below : caller.number < kernel.table.nextPid := sound.wellFormed.below_next present
        apply stopsFor_allExited
        · simp only [Kernel.departed, ProcessTable.terminated]
          omega
        · intro pid
          simp only [Kernel.departed, ProcessTable.stateOf?_terminated]
          split
          · cases kernel.table.stateOf? pid <;> simp
          · rename_i different
            intro also
            exact different (only.alone pid also).symm
      · exact stopsFor_none _
  | haltGranted last =>
      rename_i caller
      have only := sound.wellFormed.isLastRunning_iff_onlyRunning.mp last
      rcases ProcessTable.stateOf?_eq_some_iff.mp only.running with ⟨record, present, _⟩
      have below := sound.wellFormed.below_next present
      exact stopsFor_requested (by omega) only
  | _ => exact stopsFor_none _

/-- What holds of a machine with this configuration and these images at any time. -/
structure Regular (config : KernelConfig) (registry : ImageRegistry Main) (kernel : Kernel Main)
    (halted : Option HaltReason) : Prop where
  wellFormed : kernel.table.WellFormed
  no_embryo : ∀ pid, kernel.table.stateOf? pid ≠ some .embryo
  allFrames_eq : kernel.allFrames = (List.range (config.physPages % frameNumbers) : Multiset Frame)
  total_eq : kernel.loader.pool.total = config.physPages
  provisioned : kernel.Provisioned registry config.stackPages
  rooted : kernel.table.Rooted
  stopsFor : StopsFor kernel.table halted

theorem regular_boot (config : KernelConfig) (registry : ImageRegistry Main) :
    Regular config registry (.boot config registry) none where
  wellFormed := ProcessTable.wellFormed_ofMaxPid config.maxPid
  no_embryo pid state := by cases state
  allFrames_eq := Activity.allFrames_boot config registry
  total_eq := rfl
  provisioned := Activity.provisioned_boot config registry
  rooted := by
    intro started
    cases started
  stopsFor := stopsFor_none _

theorem invariant_regular (config : KernelConfig) (registry : ImageRegistry Main) :
    Invariant (Regular config registry) where
  wellFormed regular := regular.wellFormed
  step := by
    intro kernel next happening effects regular step
    have sound : Sound ⟨kernel, []⟩ := by
      refine ⟨regular.wellFormed, List.Pairwise.nil, ?_⟩
      intro pid member
      cases member
    have kept : ∀ parent pid cause, happening ≠ .withdrawn parent pid cause := by
      rintro parent pid cause rfl
      cases step
    exact {
      wellFormed := (step.sound sound).wellFormed
      no_embryo := step.no_embryo regular.no_embryo
      allFrames_eq := (step.allFrames sound).trans regular.allFrames_eq
      total_eq := step.total.trans regular.total_eq
      provisioned := step.provisioned regular.provisioned
      rooted := step.rooted sound kept regular.rooted
      stopsFor := stopsFor_of_step step sound }

end Machine

/-! ### Listings -/

theorem PidMap.mem_keys_iff {α : Type} {map : PidMap α} {pid : Pid} :
    pid ∈ map.keys ↔ map.contains pid = true := by
  simp [keys, contains, Option.isSome_iff_exists, find?_eq_some_iff_mem]

namespace ProcessTable

variable {table : ProcessTable}

/-- What a listing of a table shows, about each process and about how they belong together. -/
structure Lists (table : ProcessTable) (processes : List ProcessSnapshot) : Prop where
  mem_iff : ∀ {entry}, entry ∈ processes ↔
    ∃ record, table.find? entry.pid = some record ∧ record.snapshot = entry
  ascending : processes.Pairwise fun earlier later => earlier.pid.number < later.pid.number

theorem WellFormed.lists_snapshot (wellFormed : table.WellFormed) : table.Lists table.snapshot where
  mem_iff := by
    intro entry
    simp only [snapshot, List.mem_map, PidMap.mem_values_iff]
    constructor
    · rintro ⟨record, ⟨pid, present⟩, rfl⟩
      have same : record.snapshot.pid = pid := wellFormed.pid_eq present
      rw [same]
      exact ⟨record, present, rfl⟩
    · rintro ⟨record, present, shown⟩
      exact ⟨record, ⟨entry.pid, present⟩, shown⟩
  ascending := by
    unfold snapshot PidMap.values
    rw [List.map_map, List.pairwise_map]
    apply table.records.ascending.imp_of_mem
    intro earlier later early late before
    have first := wellFormed.pid_eq ((PidMap.find?_eq_some_iff_mem _ _ _).mpr early)
    have second := wellFormed.pid_eq ((PidMap.find?_eq_some_iff_mem _ _ _).mpr late)
    simpa [ProcessRecord.snapshot, first, second] using before

namespace Lists

variable {processes : List ProcessSnapshot} {entry other : ProcessSnapshot}

/-- An entry is determined by its pid. -/
theorem eq_of_pid (lists : table.Lists processes) (member : entry ∈ processes)
    (also : other ∈ processes) (same : entry.pid = other.pid) : entry = other := by
  rcases lists.mem_iff.mp member with ⟨record, present, rfl⟩
  rcases lists.mem_iff.mp also with ⟨otherRecord, found, rfl⟩
  rw [same, found] at present
  cases present
  rfl

theorem stateOf?_eq (lists : table.Lists processes) (member : entry ∈ processes) :
    table.stateOf? entry.pid = some entry.state := by
  rcases lists.mem_iff.mp member with ⟨record, present, rfl⟩
  rw [stateOf?, present]
  rfl

theorem parentOf?_eq (lists : table.Lists processes) (member : entry ∈ processes) :
    table.parentOf? entry.pid = entry.parent := by
  rcases lists.mem_iff.mp member with ⟨record, present, rfl⟩
  exact parentOf?_of_find?_eq_some present

theorem image_eq (lists : table.Lists processes) (member : entry ∈ processes) :
    entry.image = (table.spaceOf? entry.pid).map AddressSpace.image := by
  rcases lists.mem_iff.mp member with ⟨record, present, rfl⟩
  rw [spaceOf?, present]
  rfl

theorem exists_of_contains (wellFormed : table.WellFormed) (lists : table.Lists processes)
    {pid : Pid} (known : table.contains pid = true) : ∃ entry ∈ processes, entry.pid = pid := by
  rcases contains_iff.mp known with ⟨record, present⟩
  have same : record.snapshot.pid = pid := wellFormed.pid_eq present
  refine ⟨record.snapshot, lists.mem_iff.mpr ⟨record, ?_, rfl⟩, same⟩
  rw [same]
  exact present

theorem mem_children_iff (wellFormed : table.WellFormed) (lists : table.Lists processes)
    (member : entry ∈ processes) {child : Pid} :
    child ∈ entry.children ↔
      ∃ other ∈ processes, other.pid = child ∧ other.parent = some entry.pid := by
  have showing := lists.mem_iff.mp member
  rcases showing with ⟨record, present, rfl⟩
  simp only [ProcessRecord.snapshot, PidMap.mem_keys_iff]
  rw [wellFormed.child_iff present]
  constructor
  · rintro ⟨heir, found, named⟩
    have same : heir.snapshot.pid = child := wellFormed.pid_eq found
    refine ⟨heir.snapshot, lists.mem_iff.mpr ⟨heir, ?_, rfl⟩, same, named⟩
    rw [same]
    exact found
  · rintro ⟨other, also, rfl, named⟩
    rcases lists.mem_iff.mp also with ⟨heir, found, rfl⟩
    exact ⟨heir, found, named⟩

/-- The first process stands in front. -/
theorem exists_eq_cons (wellFormed : table.WellFormed) (lists : table.Lists processes)
    (known : table.contains .root = true) :
    ∃ entry rest, processes = entry :: rest ∧ entry.pid = .root := by
  rcases lists.exists_of_contains wellFormed known with ⟨root, member, first⟩
  cases processes with
  | nil => cases member
  | cons entry rest =>
      refine ⟨entry, rest, rfl, ?_⟩
      rcases List.mem_cons.mp member with rfl | later
      · exact first
      · have before := (List.pairwise_cons.mp lists.ascending).1 root later
        rw [first] at before
        cases before

end Lists

end ProcessTable

/-! ### Reports -/

/-- What the report on a machine with this configuration and these images shows. -/
structure Report.Consistent (config : KernelConfig) (registry : ImageRegistry Main)
    (report : Report) : Prop where
  all_exited : report.exit = .allExited →
    (∀ entry ∈ report.processes, entry.state ≠ .running ∧ entry.state ≠ .embryo) ∧
      report.root ≠ none ∧ report.pagesInUse = 0
  /--
  The process that halted the machine is the only one that runs, and owns the pages in use. They are
  those of its image, its stack and its arguments, if 64 bits can hold their number.
  -/
  requested : ∀ {caller}, report.exit = .requested caller →
    ∃ entry ∈ report.processes, entry.pid = caller ∧
      (∀ other ∈ report.processes, other.state = .running ↔ other = entry) ∧
        ∃ name image, entry.image = some name ∧ registry.find? name = some image ∧
          (image.pages + config.stackPages + argumentPages < values64 →
            report.pagesInUse = image.pages + config.stackPages + argumentPages)
  image_iff : ∀ entry ∈ report.processes, entry.image.isSome = true ↔ entry.state = .running
  ascending : report.processes.Pairwise fun earlier later => earlier.pid.number < later.pid.number
  first : ∃ entry rest, report.processes = entry :: rest ∧ entry.pid = .root ∧ entry.parent = none
  child : ∀ entry ∈ report.processes, ∀ child ∈ entry.children,
    ∃ other ∈ report.processes, other.pid = child ∧ other.parent = some entry.pid
  parent : ∀ entry ∈ report.processes, ∀ parent ∈ report.processes,
    entry.parent = some parent.pid → entry.pid ∈ parent.children

namespace Machine

variable {config : KernelConfig} {registry : ImageRegistry Main} {kernel : Kernel Main}
  {halted : Option HaltReason} {machine : Machine}

theorem Regular.pagesInUse_eq (regular : Regular config registry kernel halted) :
    kernel.loader.pagesInUse = kernel.table.runningPages + unnumberedFrames config.physPages :=
  (Kernel.conserves_of_allFrames regular.wellFormed regular.allFrames_eq
    regular.total_eq).pagesInUse_eq regular.wellFormed regular.total_eq

theorem Regular.spaceOf?_isSome_iff (regular : Regular config registry kernel halted) (pid : Pid) :
    (kernel.table.spaceOf? pid).isSome = true ↔ kernel.table.stateOf? pid = some .running := by
  unfold ProcessTable.spaceOf? ProcessTable.stateOf?
  cases present : kernel.table.find? pid with
  | none => simp
  | some record => simpa using regular.wellFormed.space_iff present

theorem Regular.rooted_of_stopped (regular : Regular config registry kernel halted)
    (stopped : halted.isSome = true) :
    kernel.table.contains .root = true ∧ kernel.table.parentOf? .root = none :=
  regular.rooted (regular.stopsFor.started stopped)

/-- When all processes have exited, so has the first one, and no pages are owned. -/
theorem Regular.all_exited (regular : Regular config registry machine.system.kernel machine.halted)
    (stopped : machine.halted = some .allExited) :
    (∀ entry ∈ machine.system.kernel.table.snapshot,
        entry.state ≠ .running ∧ entry.state ≠ .embryo) ∧
      Report.outcome? machine .root ≠ none ∧
        machine.system.kernel.loader.pagesInUse = unnumberedFrames config.physPages := by
  have lists := regular.wellFormed.lists_snapshot
  have idle := regular.stopsFor.all_exited stopped
  refine ⟨?_, ?_, ?_⟩
  · intro entry member
    have state := lists.stateOf?_eq member
    refine ⟨?_, ?_⟩
    · intro running
      rw [running] at state
      exact idle _ state
    · intro embryo
      rw [embryo] at state
      exact regular.no_embryo _ state
  · rcases regular.rooted_of_stopped (by simp [stopped]) with ⟨rooted, _⟩
    rcases ProcessTable.contains_iff.mp rooted with ⟨record, present⟩
    have state : machine.system.kernel.table.stateOf? .root = some record.state :=
      ProcessTable.stateOf?_eq_some_iff.mpr ⟨record, present, rfl⟩
    simp only [Report.outcome?, state]
    cases shape : record.state with
    | embryo =>
        rw [shape] at state
        exact absurd state (regular.no_embryo _)
    | running =>
        rw [shape] at state
        exact absurd state (idle _)
    | exited termination => simp
  · rw [regular.pagesInUse_eq, ProcessTable.runningPages_eq_zero idle, Nat.zero_add]

/-- When a process asked for the stop, it runs alone and owns all pages that are owned. -/
theorem Regular.requested {caller : Pid}
    (regular : Regular config registry machine.system.kernel machine.halted)
    (stopped : machine.halted = some (.requested caller)) :
    ∃ entry ∈ machine.system.kernel.table.snapshot, entry.pid = caller ∧
      (∀ other ∈ machine.system.kernel.table.snapshot,
        other.state = .running ↔ other = entry) ∧
        ∃ name image, entry.image = some name ∧ registry.find? name = some image ∧
          machine.system.kernel.loader.pagesInUse =
            (image.pages + config.stackPages + argumentPages) % values64 +
              unnumberedFrames config.physPages := by
  have wellFormed := regular.wellFormed
  have lists := wellFormed.lists_snapshot
  have only := regular.stopsFor.requested stopped
  rcases ProcessTable.stateOf?_eq_some_iff.mp only.running with ⟨record, present, _⟩
  have known := ProcessTable.contains_iff.mpr ⟨record, present⟩
  rcases lists.exists_of_contains wellFormed known with ⟨entry, member, rfl⟩
  have owner := (regular.spaceOf?_isSome_iff entry.pid).mpr only.running
  rcases Option.isSome_iff_exists.mp owner with ⟨space, owned⟩
  rcases regular.provisioned.pageCount_eq owned with ⟨image, installed, counted⟩
  refine ⟨entry, member, rfl, ?_, space.image, image, ?_, installed, ?_⟩
  · intro other also
    have state := lists.stateOf?_eq also
    constructor
    · intro running
      rw [running] at state
      exact lists.eq_of_pid also member (only.alone _ state)
    · rintro rfl
      rw [only.running] at state
      exact (Option.some.inj state).symm
  · rw [lists.image_eq member, owned]
    rfl
  · rw [regular.pagesInUse_eq, wellFormed.runningPages_of_onlyRunning only owned, counted]

theorem Regular.consistent (regular : Regular config registry machine.system.kernel machine.halted)
    (fits : config.physPages < frameNumbers) {program : String} {report : Report}
    (reports : Report.ofMachine? program .root machine = some report) :
    report.Consistent config registry := by
  have wellFormed := regular.wellFormed
  have lists := wellFormed.lists_snapshot
  have numbered := unnumberedFrames_eq_zero_iff.mpr fits
  rcases Option.map_eq_some_iff.mp reports with ⟨reason, stopped, rfl⟩
  rcases regular.rooted_of_stopped (by simp [stopped]) with ⟨rooted, orphan⟩
  refine ⟨?_, ?_, ?_, lists.ascending, ?_, ?_, ?_⟩
  · intro exited
    simp only at exited
    subst exited
    rcases regular.all_exited stopped with ⟨states, ended, pages⟩
    exact ⟨states, ended, pages.trans numbered⟩
  · intro caller asked
    simp only at asked
    subst asked
    rcases regular.requested stopped with
      ⟨entry, member, same, alone, name, image, shown, installed, pages⟩
    rw [numbered, Nat.add_zero] at pages
    refine ⟨entry, member, same, alone, name, image, shown, installed, ?_⟩
    intro counted
    exact pages.trans (Nat.mod_eq_of_lt counted)
  · intro entry member
    have shown := lists.image_eq member
    have state := lists.stateOf?_eq member
    rw [shown, Option.isSome_map, regular.spaceOf?_isSome_iff, state, Option.some.injEq]
  · rcases lists.exists_eq_cons wellFormed rooted with ⟨entry, rest, split, first⟩
    have member : entry ∈ machine.system.kernel.table.snapshot := by
      rw [split]
      exact List.mem_cons_self
    refine ⟨entry, rest, split, first, ?_⟩
    rw [← lists.parentOf?_eq member, first]
    exact orphan
  · intro entry member child listed
    exact (lists.mem_children_iff wellFormed member).mp listed
  · intro entry member parent also named
    exact (lists.mem_children_iff wellFormed also).mpr ⟨entry, member, rfl, named⟩

end Machine

/-! ### Runs -/

namespace Machine

variable (config : KernelConfig) (registry : ImageRegistry Main) (input : String)
  (schedule : Schedule) (startsLeft : Option Nat) (name : String) (arguments : List String)

theorem run_switchedOn :
    Alike (Regular config registry)
      ((switchedOn config registry (Utf8.encode input) schedule startsLeft).run name arguments)
      ((switchedOn config registry (Utf8.encode input) schedule startsLeft).runSealed name
        arguments) :=
  run_alike (invariant_regular config registry) rfl (regular_boot config registry) name arguments

theorem eq_root_of_run {root : Pid} {machine : Machine}
    (booted : (switchedOn config registry (Utf8.encode input) schedule startsLeft).run name
      arguments = (.ok root, machine)) : root = .root := by
  unfold run at booted
  simp only at booted
  split at booted
  · cases booted
  · rename_i first left created
    cases booted
    have answered := congrArg Prod.fst created
    apply (Engine.pid_of_spawn _ answered).1
    exact ProcessTable.wellFormed_ofMaxPid config.maxPid

end Machine

namespace Simulator

section Runs

variable {config : KernelConfig} {registry : ImageRegistry Main} {input : String}
  {schedule : Schedule} {startsLeft : Option Nat} {name : String} {arguments : List String}

/-- A run with a report ended with a first process and a machine that has stopped. -/
theorem runMachine_eq_ok {report : Report} {machine : Machine}
    (stops : runMachine config registry input schedule startsLeft name arguments =
      (.ok (some report), machine)) :
    (Machine.switchedOn config registry (Utf8.encode input) schedule startsLeft).run name
        arguments = (.ok .root, machine) ∧
      Report.ofMachine? name .root machine = some report := by
  rcases ran : (Machine.switchedOn config registry (Utf8.encode input) schedule startsLeft).run name
    arguments with ⟨booted, left⟩
  simp only [runMachine, ran] at stops
  cases booted with
  | error cause => cases stops
  | ok root =>
      have first := Machine.eq_root_of_run config registry input schedule startsLeft name arguments
        ran
      subst root
      simp only [Prod.mk.injEq] at stops
      rcases stops with ⟨reports, rfl⟩
      exact ⟨rfl, Except.ok.inj reports⟩

theorem exists_report {root : Pid} {reason : HaltReason}
    (boots : ((Machine.switchedOn config registry (Utf8.encode input) schedule startsLeft).run name
      arguments).1 = .ok root)
    (stops : ((Machine.switchedOn config registry (Utf8.encode input) schedule startsLeft).run name
      arguments).2.halted = some reason) :
    ∃ report, runMachine config registry input schedule startsLeft name arguments =
        (.ok (some report), ((Machine.switchedOn config registry (Utf8.encode input) schedule
          startsLeft).run name arguments).2) ∧
      report.exit = reason ∧
        report.pagesInUse = ((Machine.switchedOn config registry (Utf8.encode input) schedule
          startsLeft).run name arguments).2.system.kernel.loader.pagesInUse := by
  rcases ran : (Machine.switchedOn config registry (Utf8.encode input) schedule startsLeft).run name
    arguments with ⟨booted, left⟩
  rw [ran] at boots stops
  simp only at boots stops
  subst booted
  simp only [runMachine, ran, Report.ofMachine?, stops]
  exact ⟨_, rfl, rfl, rfl⟩

end Runs

/--
Whatever programs run, and in which order, the report on a machine that has stopped is consistent
with the way in which it stopped. The system that the report is made of is the one at the first
power-off: a machine that is sealed from then on is left with the same.
-/
theorem report_is_consistent (config : KernelConfig) (registry : ImageRegistry Main)
    (input : String) (schedule : Schedule) (startsLeft : Option Nat) (name : String)
    (arguments : List String) {report : Report} {machine : Machine}
    (fits : config.physPages < frameNumbers)
    (stops : runMachine config registry input schedule startsLeft name arguments =
      (.ok (some report), machine)) :
    report.Consistent config registry ∧
      ((Machine.switchedOn config registry (Utf8.encode input) schedule startsLeft).runSealed name
        arguments).2.system = machine.system := by
  have alike := Machine.run_switchedOn config registry input schedule startsLeft name arguments
  rcases runMachine_eq_ok stops with ⟨ran, reported⟩
  rw [ran] at alike
  exact ⟨alike.twins.holds.consistent fits reported, alike.twins.system_eq⟩

/-- The first process creates a second one and exits; the second one halts the machine. -/
def orphanHalts : ImageRegistry Main :=
  .ofList [⟨"first.coff", 1, fun _ => .exec "second.coff" [] fun _ => .exit 0⟩,
    ⟨"second.coff", 2, fun _ => .halt fun _ => .done 0⟩]

theorem report_is_consistent_after_halt :
    ∃ report machine, (64 : Nat) < frameNumbers ∧
      runMachine ⟨64, 8, 3⟩ orphanHalts "" .fifo none "first.coff" [] =
        (.ok (some report), machine) ∧
      report.exit = .requested ⟨1⟩ ∧ report.Consistent ⟨64, 8, 3⟩ orphanHalts ∧
        ((Machine.switchedOn ⟨64, 8, 3⟩ orphanHalts (Utf8.encode "") .fifo none).runSealed
          "first.coff" []).2.system = machine.system := by
  have fits : (64 : Nat) < frameNumbers := by decide
  have boots : ((Machine.switchedOn ⟨64, 8, 3⟩ orphanHalts (Utf8.encode "") .fifo none).run
      "first.coff" []).1 = .ok ⟨0⟩ := by
    decide +kernel
  have halts : ((Machine.switchedOn ⟨64, 8, 3⟩ orphanHalts (Utf8.encode "") .fifo none).run
      "first.coff" []).2.halted = some (.requested ⟨1⟩) := by
    decide +kernel
  rcases exists_report boots halts with ⟨report, stops, reason, _⟩
  rcases report_is_consistent ⟨64, 8, 3⟩ orphanHalts "" .fifo none "first.coff" [] fits stops with
    ⟨consistent, frozen⟩
  exact ⟨report, _, fits, stops, reason, consistent, frozen⟩

/-- The only process halts the machine at once. -/
def haltsAtOnce : ImageRegistry Main := .ofList [⟨"a.coff", 1, fun _ => .halt fun _ => .done 0⟩]

/--
With as many stack pages as 64 bits can count, the sum for an image of one page comes out as one
again, and a process that halts the machine is found with this one page.
-/
theorem uncountable_stack_goes_unreported :
    ∃ report machine, runMachine ⟨256, values64 - 1, 3⟩ haltsAtOnce "" .fifo none "a.coff" [] =
        (.ok (some report), machine) ∧
      report.exit = .requested .root ∧
        (haltsAtOnce.find? "a.coff").map Image.pages = some 1 ∧ report.pagesInUse = 1 ∧
          report.pagesInUse ≠ 1 + (values64 - 1) + 1 := by
  have boots : ((Machine.switchedOn ⟨256, values64 - 1, 3⟩ haltsAtOnce (Utf8.encode "") .fifo
      none).run "a.coff" []).1 = .ok .root := by
    decide +kernel
  have halts : ((Machine.switchedOn ⟨256, values64 - 1, 3⟩ haltsAtOnce (Utf8.encode "") .fifo
      none).run "a.coff" []).2.halted = some (.requested .root) := by
    decide +kernel
  rcases exists_report boots halts with ⟨report, stops, reason, pages⟩
  have one : report.pagesInUse = 1 := by
    rw [pages]
    decide +kernel
  refine ⟨report, _, stops, reason, rfl, one, ?_⟩
  rw [one]
  decide

end Simulator

/-! ### Pages in use -/

namespace MachineConfig

/--
The pages in use are the pages of the processes that run, and the frames that cannot be numbered.
So after all processes have exited, the report shows the latter, which are none exactly on a memory
whose frames can all be numbered.
-/
theorem pages_are_accounted (config : MachineConfig) :
    (unnumberedFrames config.physPages = 0 ↔ config.physPages < frameNumbers) ∧
      (∀ {E : Type} (registry : ImageRegistry E) (moves : List Move),
        ((Activity.boot config.kernelConfig registry).run moves).2.kernel.loader.pagesInUse =
          ((Activity.boot config.kernelConfig registry).run moves).2.kernel.table.runningPages +
            unnumberedFrames config.physPages) ∧
      ∀ registry input schedule startsLeft name arguments report machine,
        Simulator.runMachine config.kernelConfig registry input schedule startsLeft name arguments =
            (.ok (some report), machine) →
          report.pagesInUse = machine.system.kernel.table.runningPages +
              unnumberedFrames config.physPages ∧
            (report.exit = .allExited →
              report.pagesInUse = unnumberedFrames config.physPages) := by
  refine ⟨unnumberedFrames_eq_zero_iff, ?_, ?_⟩
  · intro E registry moves
    exact Activity.pagesInUse_run config.kernelConfig registry moves
  · intro registry input schedule startsLeft name arguments report machine stops
    have alike := Machine.run_switchedOn config.kernelConfig registry input schedule startsLeft name
      arguments
    rcases Simulator.runMachine_eq_ok stops with ⟨ran, reported⟩
    rw [ran] at alike
    have regular := alike.twins.holds
    rcases Option.map_eq_some_iff.mp reported with ⟨reason, halted, rfl⟩
    refine ⟨regular.pagesInUse_eq, ?_⟩
    intro exited
    simp only at exited
    subst exited
    exact (regular.all_exited halted).2.2

/-- A memory of twenty frames more than can be numbered. -/
def oversized : MachineConfig := { physPages := frameNumbers + 20, maxPid := 3 }

/-- The only process exits at once. -/
def exitsAtOnce : ImageRegistry Main := .ofList [⟨"only.coff", 1, fun _ => .exit 0⟩]

theorem oversized_run :
    ∃ report machine, Simulator.runMachine oversized.kernelConfig exitsAtOnce "" .fifo none
        "only.coff" [] = (.ok (some report), machine) ∧
      report.exit = .allExited ∧ report.pagesInUse = frameNumbers := by
  have boots : ((Machine.switchedOn oversized.kernelConfig exitsAtOnce (Utf8.encode "") .fifo
      none).run "only.coff" []).1 = .ok ⟨0⟩ := by
    decide +kernel
  have halts : ((Machine.switchedOn oversized.kernelConfig exitsAtOnce (Utf8.encode "") .fifo
      none).run "only.coff" []).2.halted = some .allExited := by
    decide +kernel
  rcases Simulator.exists_report boots halts with ⟨report, stops, reason, pages⟩
  refine ⟨report, _, stops, reason, pages.trans ?_⟩
  decide +kernel

theorem pages_are_accounted_when_oversized :
    ∃ report machine, Simulator.runMachine oversized.kernelConfig exitsAtOnce "" .fifo none
        "only.coff" [] = (.ok (some report), machine) ∧
      report.exit = .allExited ∧ report.pagesInUse = unnumberedFrames oversized.physPages := by
  rcases oversized_run with ⟨report, machine, stops, exited, _⟩
  rcases pages_are_accounted oversized with ⟨_, _, reported⟩
  have counted := reported exitsAtOnce "" .fifo none "only.coff" [] report machine stops
  exact ⟨report, machine, stops, exited, counted.2 exited⟩

/-- The configuration is accepted, all processes have exited, and pages are still in use. -/
theorem oversized_memory_is_never_free :
    oversized.validate = .ok oversized ∧
      ¬∀ report machine, Simulator.runMachine oversized.kernelConfig exitsAtOnce "" .fifo none
          "only.coff" [] = (.ok (some report), machine) →
        report.exit = .allExited → report.pagesInUse = 0 := by
  refine ⟨rfl, ?_⟩
  intro none
  rcases oversized_run with ⟨report, machine, stops, exited, pages⟩
  rw [none report machine stops exited] at pages
  cases pages

end MachineConfig

end Lifecycle
