import Lifecycle.Proofs.FibonacciRuns
import Lifecycle.Proofs.Texts
import Lifecycle.Simulator

/-!
# Reports on the Fibonacci program

The report on a machine that boots the program, for any argument, any memory that holds one process
and any schedule, as long as the pids last. The report is the same for all schedules: they differ in
when a child runs, but not in what runs before what.
-/

namespace Lifecycle

namespace Fibonacci

open Machine

theorem find?_registryWith {images : List (Image Main)}
    (apart : ∀ image ∈ images, image.name ≠ Program.fibonacciName) :
    (Simulator.registryWith images).find? Program.fibonacciName = some image := by
  rw [Simulator.registryWith, ImageRegistry.ofList, List.foldl_append,
    ImageRegistry.find?_foldl_install _ apart]
  rfl

/-! ### The run -/

/-- A machine on which no process runs or has ever run. -/
structure Fresh (machine : Machine) : Prop where
  wellFormed : machine.system.kernel.table.WellFormed
  first : machine.system.kernel.table.nextPid = 0
  unawaited : ∀ target : Pid, machine.system.kernel.waiters.waiters.find? target = none
  capped : machine.system.kernel.table.maxPid ≤ pidLimit
  unused : machine.system.kernel.table.running = 0
  live : machine.halted = none
  idle : machine.ready = []
  unlimited : machine.startsLeft = none

/-- The machine on which the first process has just begun to run. -/
def rooted (machine : Machine) (space : AddressSpace) (loader : Loader Main) : Machine :=
  machine.withKernel (machine.system.kernel.launched none space loader)

section Run

variable {machine : Machine} {index : Nat} {space : AddressSpace} {loader : Loader Main}

theorem Fresh.computes (fresh : Fresh machine)
    (loadable : Loadable loader)
    (log : List Log.Record) :
    Computes { rooted machine space loader with log := log }
      machine.nextPid := by
  have hosts : (machine.system.kernel.launched none space loader).Hosts
      machine.nextPid := by
    apply Kernel.Hosts.of_launched fresh.wellFormed _ fresh.capped (ProcessTable.no_creator _)
    · rw [fresh.first]
      exact Nat.zero_le _
    · intro target _
      exact fresh.unawaited target
  exact ⟨⟨hosts, fresh.live, fresh.idle, fresh.unlimited⟩, loadable⟩

/-- No other process runs when the first one ends. -/
theorem Fresh.halted (fresh : Fresh machine) (outcome : Outcome) :
    (((rooted machine space loader).after outcome).departed machine.nextPid
      outcome.status).halted = some .allExited := by
  have alone : ((rooted machine space loader).after outcome).system.kernel.table.running = 1 := by
    change machine.system.kernel.table.running + 1 = 1
    rw [fresh.unused]
  have live : ((rooted machine space loader).after outcome).halted = none := fresh.live
  rw [departed, if_pos alone, live]
  rfl

theorem Fresh.runsOut (fresh : Fresh machine)
    (loadable : Loadable loader)
    (inRange : processes index ≤ machine.system.kernel.table.maxPid + 1) {depth : Nat}
    (deep : index ≤ depth) (log : List Log.Record) :
    RunsOut (runNext (engine (machine.system.kernel.table.maxPid + 2) depth))
      ⟨machine.nextPid, Program.fibonacci, arguments index⟩ (Fibonacci.run index (room loader))
      { rooted machine space loader with log := log } := by
  apply runsOutAt_engine (machine.system.kernel.table.maxPid + 1) depth index deep _ _
    (fresh.computes loadable log)
  change machine.system.kernel.table.nextPid + 1 + processes index ≤
    machine.system.kernel.table.maxPid + 2
  rw [fresh.first]
  omega

/-- The first process runs to its end, whatever the schedule, and stops the machine. -/
theorem Fresh.run (fresh : Fresh machine)
    (loadable : Loadable loader)
    (built : machine.system.kernel.loader.load Program.fibonacciName (arguments index) =
      .ok (⟨Program.fibonacci, space⟩, loader))
    (inRange : processes index ≤ machine.system.kernel.table.maxPid + 1) :
    ∃ log, machine.run Program.fibonacciName (arguments index) =
      (.ok machine.nextPid,
        { ((rooted machine space loader).after (Fibonacci.run index (room loader))).departed
            machine.nextPid (Fibonacci.run index (room loader)).status with
          log := log }) := by
  have ran (depth : Nat) (deep : index ≤ depth) (log : List Log.Record) :
      RunsOut (runNext (engine (machine.system.kernel.table.maxPid + 2) depth))
        ⟨machine.nextPid, Program.fibonacci, arguments index⟩ (Fibonacci.run index (room loader))
        { rooted machine space loader with log := log } :=
    fresh.runsOut loadable inRange deep log
  generalize Fibonacci.run index (room loader) = outcome at ran ⊢
  have halted : (((rooted machine space loader).after outcome).departed machine.nextPid
      outcome.status).isHalted = true := congrArg Option.isSome (fresh.halted outcome)
  have deep : index ≤ machine.system.kernel.table.maxPid + 1 :=
    Nat.le_trans (le_processes index) inRange
  have inside : machine.system.kernel.table.nextPid ≤ machine.system.kernel.table.maxPid := by
    rw [fresh.first]
    exact Nat.zero_le _
  rcases Kernel.prepare_of_loads fresh.wellFormed inside (ProcessTable.no_creator _) built with
    ⟨effects, calm, prepared⟩
  rcases spawn_of_ok (machine.system.kernel.table.maxPid + 2)
    (runNext (engine (machine.system.kernel.table.maxPid + 2)
      (machine.system.kernel.table.maxPid + 1)))
    machine fresh.live fresh.unlimited calm prepared with ⟨log, creates⟩
  by_cases eager : machine.schedule = .eager
  · -- The first process has run and ended when its creation returns.
    rcases ran (machine.system.kernel.table.maxPid + 1) deep log with ⟨middle, ran⟩
    rcases creates _ ((if_pos eager).trans ran) with ⟨later, created⟩
    refine ⟨later, ?_⟩
    apply (run_of_spawn created).trans
    rw [runUntilHalted_of_isHalted]
    · rfl
    · exact halted
  · rcases creates _ (if_neg eager) with ⟨later, created⟩
    rcases ran (machine.system.kernel.table.maxPid + 2) (Nat.le_succ_of_le deep) later with
      ⟨last, ran⟩
    refine ⟨last, ?_⟩
    apply (run_of_spawn created).trans
    apply congrArg (Prod.mk _)
    apply runUntilHalted_of_runNext (machine.system.kernel.table.maxPid + 1) ran halted
    exact fresh.live

end Run

/-! ### The report -/

/-- The text that printing some lines leaves on an empty console. -/
def textOf (lines : List String) : String := String.join (lines.map fun line => line ++ "\n")

theorem output_printed (console : Console) (lines : List String) :
    (lines.foldl Console.printed console).output =
      console.output ++ Utf8.encode (textOf lines) := by
  induction lines generalizing console with
  | nil =>
      have blank : Utf8.encode (textOf []) = [] := Utf8.encode_eq_flatMap ""
      rw [blank, List.append_nil]
      rfl
  | cons line lines ih =>
      have rest : textOf (line :: lines) = (line ++ "\n") ++ textOf lines := by
        rw [textOf, List.map_cons, String.join_cons]
        rfl
      rw [List.foldl_cons, ih, Console.printed, Console.output_write, rest,
        Utf8.encode_append (line ++ "\n"), List.append_assoc]

/-- The record of the first process when it has ended. -/
def remaining (status : Int32) : ProcessSnapshot :=
  ⟨Pid.root, none, .exited (.exit status), [], none⟩

/-- What is reported on a machine whose first process has an outcome. -/
def reportOn (outcome : Outcome) : Report where
  program := Program.fibonacciName
  exit := .allExited
  root := some (.exit outcome.status)
  console := textOf outcome.lines
  pagesInUse := 0
  calls := Report.byName ((Syscall.Stats.zero.recordAll outcome.calls).nonzero.map fun entry =>
    (entry.1.name, entry.2))
  processes := [remaining outcome.status]

section Report

variable {config : KernelConfig} {registry : ImageRegistry Main}

theorem fresh_switchedOn (config : KernelConfig) (registry : ImageRegistry Main)
    (input : List UInt8) (schedule : Schedule) :
    Fresh (switchedOn config registry input schedule none) where
  wellFormed := ProcessTable.wellFormed_ofMaxPid config.maxPid
  first := rfl
  unawaited _ := rfl
  capped := Nat.min_le_right _ _
  unused := rfl
  live := rfl
  idle := rfl
  unlimited := rfl

theorem ofMachine?_departed {space : AddressSpace} {loader : Loader Main} {index : Nat}
    (input : List UInt8) (schedule : Schedule) (narrow : config.physPages < values32)
    (built : (Kernel.boot config registry).loader.load Program.fibonacciName (arguments index) =
      .ok (⟨Program.fibonacci, space⟩, loader)) (outcome : Outcome) (log : List Log.Record) :
    Report.ofMachine? Program.fibonacciName Pid.root
        { ((rooted (switchedOn config registry input schedule none) space loader).after
            outcome).departed Pid.root outcome.status with log := log } =
      some (reportOn outcome) := by
  have freed : loader.regained space.frames = (Kernel.boot config registry).loader :=
    Loader.unload_of_load built
  generalize stopped :
    ({ ((rooted (switchedOn config registry input schedule none) space loader).after
      outcome).departed Pid.root outcome.status with log := log } : Machine) = machine
  have halted : machine.halted = some .allExited := by
    rw [← stopped]
    exact (fresh_switchedOn config registry input schedule).halted outcome
  have ended : Report.outcome? machine Pid.root = some (.exit outcome.status) := by
    rw [← stopped]
    rfl
  have console : Utf8.decode machine.system.console.output = textOf outcome.lines := by
    rw [← Utf8.decode_encode (textOf outcome.lines), ← stopped]
    exact congrArg Utf8.decode (output_printed (Console.push {} input) outcome.lines)
  have reclaimed : machine.system.kernel.loader.totalPages -
      machine.system.kernel.loader.freePages = 0 := by
    have restored : machine.system.kernel.loader = (Kernel.boot config registry).loader := by
      rw [← stopped]
      exact freed
    have free : (Kernel.boot config registry).loader.freePages = config.physPages :=
      Loader.freePages_ofRegistry registry config.stackPages narrow
    rw [restored, free]
    exact Nat.sub_self config.physPages
  have records : machine.system.kernel.table.snapshot = [remaining outcome.status] := by
    rw [← stopped]
    rfl
  have stats : machine.system.stats = Syscall.Stats.zero.recordAll outcome.calls := by
    rw [← stopped]
    rfl
  simp only [Report.ofMachine?, halted, Option.map_some, ended, console, reclaimed, records, stats,
    reportOn]

end Report

/-- How often the computation makes each system call, by name. -/
def callCounts (index : Nat) : List (String × Nat) :=
  [("exec", processes index - 1), ("join", processes index - 1), ("write", (lines index).length)]

theorem byName_ascending (execs joins writes : Nat) :
    Report.byName [("exec", execs), ("join", joins), ("write", writes)] =
      [("exec", execs), ("join", joins), ("write", writes)] := by
  simp only [Report.byName, List.foldl_cons, List.foldl_nil, Report.enterCount, String.reduceLT,
    String.reduceEq, if_false]

theorem calls_reportOn {index : Nat} {outcome : Outcome} (completes : Completes index outcome) :
    (reportOn outcome).calls = (callCounts index).filter fun entry => entry.2 != 0 := by
  have counts : ∀ number,
      (Syscall.Stats.zero.recordAll outcome.calls).count number = tally index number := by
    intro number
    rw [Syscall.Stats.count_recordAll, completes.calls]
    cases number <;> exact Nat.zero_add _
  have listed : (Syscall.Stats.zero.recordAll outcome.calls).nonzero =
      (Syscall.Number.all.map fun number => (number, tally index number)).filter
        fun entry => entry.2 != 0 := by
    simp only [Syscall.Stats.nonzero, counts]
  rw [reportOn, listed, callCounts]
  match index with
  | 0 => rfl
  | 1 => rfl
  | index + 2 =>
      have created : processes (index + 2) - 1 ≠ 0 := by
        have many := lt_processes index
        omega
      have printed : (lines (index + 2)).length ≠ 0 := by
        rw [lines_add_two]
        simp
      have made : (Syscall.Number.all.map fun number => (number, tally (index + 2) number)).filter
          (fun entry => entry.2 != 0) =
            [(.exec, processes (index + 2) - 1), (.join, processes (index + 2) - 1),
              (.write, (lines (index + 2)).length)] := by
        simp [Syscall.Number.all, tally, created, printed]
      rw [made, List.filter_eq_self.mpr]
      · exact byName_ascending _ _ _
      · simp [created, printed]

theorem pagesFor_boot (config : KernelConfig) (registry : ImageRegistry Main)
    (fits : 3 + config.stackPages + argumentPages < values64) :
    (Kernel.boot config registry).loader.pagesFor image = 3 + config.stackPages + argumentPages :=
  Loader.pagesFor_of_lt fits

theorem room_boot (config : KernelConfig) (registry : ImageRegistry Main)
    (narrow : config.physPages < values32)
    (fits : 3 + config.stackPages + argumentPages < values64) :
    room (Kernel.boot config registry).loader =
      config.physPages / (3 + config.stackPages + argumentPages) := by
  have free : (Kernel.boot config registry).loader.freePages = config.physPages :=
    Loader.freePages_ofRegistry registry config.stackPages narrow
  rw [room, free, pagesFor_boot config registry fits]

/-- The report does not depend on the schedule. -/
theorem runMachine_eq {config : KernelConfig} {registry : ImageRegistry Main} {index more : Nat}
    (installed : registry.find? Program.fibonacciName = some image)
    (narrow : config.physPages < values32)
    (fits : 3 + config.stackPages + argumentPages < values64)
    (holds : config.physPages / (3 + config.stackPages + argumentPages) = more + 1)
    (inRange : processes index ≤ cappedPid config.maxPid + 1) (input : String)
    (schedule : Schedule) :
    (Simulator.runMachine config registry input schedule none Program.fibonacciName
      (arguments index)).1 = .ok (some (reportOn (run index more))) := by
  have limited : cappedPid config.maxPid ≤ pidLimit := Nat.min_le_right _ _
  have small : index < 2 ^ 31 := by
    apply index_lt
    simp only [pidLimit] at limited
    omega
  have positive : 0 < (Kernel.boot config registry).loader.pagesFor image := by
    rw [pagesFor_boot config registry fits, argumentPages]
    omega
  rcases exists_load ⟨installed, positive⟩ small
    ((room_boot config registry narrow fits).trans holds) with ⟨space, loader, built, left, loadable⟩
  rcases (fresh_switchedOn config registry (Utf8.encode input) schedule).run loadable built inRange
    with ⟨log, ran⟩
  have reported := ofMachine?_departed (Utf8.encode input) schedule narrow built (run index more)
    log
  rw [left] at ran
  simp only [Simulator.runMachine, ran]
  exact congrArg Except.ok reported

/--
For every argument, every memory that holds one process and as many pids as there are processes, all
schedules lead to the same report. If the longest chain of descendants fits into the memory, the
first process returns its number; otherwise it gives up.
-/
theorem reports_number {images : List (Image Main)}
    (apart : ∀ image ∈ images, image.name ≠ Program.fibonacciName) (input : String)
    (index physPages stackPages maxPid : Nat) (narrow : physPages < values32)
    (enough : 3 + stackPages + 1 ≤ physPages)
    (inRange : processes index ≤ cappedPid maxPid + 1) :
    ∃ report status,
      (∀ schedule, (Simulator.runMachine ⟨physPages, stackPages, maxPid⟩
        (Simulator.registryWith images) input schedule none Program.fibonacciName
          [Program.fibonacciName, toString index]).1 = .ok (some report)) ∧
        report.exit = .allExited ∧ report.pagesInUse = 0 ∧
          report.root = some (.exit status) ∧
            report.processes = [⟨Pid.root, none, .exited (.exit status), [], none⟩] ∧
              (max index 1 * (3 + stackPages + 1) ≤ physPages →
                status.toInt = value index ∧
                  report.calls = (callCounts index).filter (fun entry => entry.2 != 0) ∧
                    report.console = String.join ((lines index).map fun line => line ++ "\n")) ∧
                (physPages < max index 1 * (3 + stackPages + 1) → status = -1) := by
  have limited : cappedPid maxPid ≤ pidLimit := Nat.min_le_right _ _
  have small : processes index ≤ 2 ^ 31 := by
    simp only [pidLimit] at limited
    omega
  rcases Nat.exists_eq_add_one.mpr (Nat.div_pos enough (by omega)) with ⟨more, holds⟩
  have fitting : max index 1 * (3 + stackPages + 1) ≤ physPages ↔ index ≤ more + 1 := by
    rw [← Nat.le_div_iff_mul_le (by omega), holds]
    omega
  refine ⟨reportOn (run index more), (run index more).status, ?_, rfl, rfl, rfl, rfl, ?_, ?_⟩
  · intro schedule
    have counted : 3 + stackPages + argumentPages < values64 := by
      simp only [argumentPages, values32, values64] at narrow ⊢
      omega
    exact runMachine_eq (find?_registryWith apart) narrow counted holds inRange input schedule
  · intro fits
    have completes := completes_run index more (fitting.mp fits) small
    refine ⟨?_, calls_reportOn completes, ?_⟩
    · rw [completes.status]
      exact Int32.toInt_ofNat_of_lt (value_lt small)
    · exact congrArg textOf completes.prints
  · intro short
    apply status_run_of_short index more _ small
    have unfit : ¬index ≤ more + 1 := by
      rw [← fitting]
      exact Nat.not_le_of_lt short
    omega

/-- With one page less than three processes take, the third one finds no memory. -/
theorem reports_number_of_three :
    (∃ report, (∀ schedule, (Simulator.runMachine ⟨36, 8, 4⟩ (Simulator.registryWith []) "" schedule
        none Program.fibonacciName [Program.fibonacciName, toString 3]).1 = .ok (some report)) ∧
      report.root = some (.exit 5) ∧
        report.calls = [("exec", 4), ("join", 4), ("write", 2)] ∧
          report.console = "fibonacci(2) = 3\nfibonacci(3) = 5\n") ∧
      ∃ report, (∀ schedule, (Simulator.runMachine ⟨35, 8, 4⟩ (Simulator.registryWith []) "" schedule
          none Program.fibonacciName [Program.fibonacciName, toString 3]).1 = .ok (some report)) ∧
        report.root = some (.exit (-1)) := by
  have apart : ∀ image ∈ ([] : List (Image Main)), image.name ≠ Program.fibonacciName := by
    intro image member
    cases member
  constructor
  · rcases reports_number apart "" 3 36 8 4 (by decide) (by decide) (by decide) with
      ⟨report, status, same, _, _, root, _, fits, _⟩
    rcases fits (by decide) with ⟨number, calls, console⟩
    have five : status = 5 := by
      apply Int32.toInt_inj.mp
      rw [number]
      rfl
    refine ⟨report, same, ?_, ?_, ?_⟩
    · rw [root, five]
    · rw [calls]
      rfl
    · rw [console]
      rfl
  · rcases reports_number apart "" 3 35 8 4 (by decide) (by decide) (by decide) with
      ⟨report, status, same, _, _, root, _, _, short⟩
    refine ⟨report, same, ?_⟩
    rw [root, short (by decide)]

end Fibonacci

end Lifecycle
