import Lifecycle.Proofs.AssertedRuns
import Lifecycle.Proofs.Texts

/-!
# The self test

For every input, memory, number of pids and schedule, the self test comes to one of three ends. It
halts the machine after all its checks, or a child cannot be created, which it reports and returns a
status for, or the machine stops because no pid is left. It never reports that a check failed.
-/

namespace Lifecycle

/-! ### Assertions about library functions -/

namespace Program

variable {home : Home} {ends : Fate → Progress → Prop} {progress : Progress}

theorem ensures_printLine {text : String} {rest : Unit → Program Int32}
    (goesOn : (rest ()).Ensures home ends (progress.prints text)) :
    (printLine text >>= rest).Ensures home ends progress :=
  ⟨text, rfl, rfl, fun _ => goesOn⟩

theorem ensures_spawn {name : String} {arguments : List String} {image : Image Main}
    {rest : Except SpawnError Int32 → Program Int32}
    (admits : home.loader.Admits name arguments image) (pages : image.pages = home.imagePages)
    (modest : (image.entry arguments).Modest True (· = 0))
    (inRange : progress.created + 1 ≤ pidLimit)
    (created : (rest (.ok (Int32.ofNat (progress.created + 1)))).Ensures home ends
      (progress.creates image.entry arguments))
    (refused : home.Affords progress ∨
      ends .exhausted progress ∧ (rest (.error .execFailed)).Ensures home ends progress) :
    (spawn name arguments >>= rest).Ensures home ends progress := by
  have natural : 0 ≤ Int32.ofNat (progress.created + 1) := by
    rw [Int32.le_iff_toInt_le, Pid.toInt_ofNat inRange]
    exact Int.natCast_nonneg _
  refine ⟨image, admits, pages, modest, ?_, refused⟩
  change (rest (if 0 ≤ Int32.ofNat (progress.created + 1) then _ else _)).Ensures _ _ _
  rw [if_pos natural]
  exact created

theorem ensures_wait_child (pid : Pid) {number : Int32} {rest : JoinStatus → Program Int32}
    (named : Pid.ofInt32? number = some pid) (child : pid ∈ progress.children.map Launch.pid)
    (collected : (rest (.exited 0)).Ensures home ends (progress.collects pid)) :
    (wait number >>= rest).Ensures home ends progress := by
  refine ⟨pid, named, ?_⟩
  rw [if_pos child]
  exact collected

theorem ensures_wait_stranger (pid : Pid) {number : Int32} {rest : JoinStatus → Program Int32}
    (named : Pid.ofInt32? number = some pid) (stranger : pid ∉ progress.children.map Launch.pid)
    (refused : (rest .invalid).Ensures home ends progress) :
    (wait number >>= rest).Ensures home ends progress := by
  refine ⟨pid, named, ?_⟩
  rw [if_neg stranger]
  exact refused

theorem ensures_tryHalt {rest : Int32 → Program Int32} (childless : progress.children = [])
    (halted : ends .halted progress) : (tryHalt >>= rest).Ensures home ends progress :=
  ⟨childless, halted⟩

end Program

/-! ### The program -/

namespace SelfTest

/-- What the self test prints when a child cannot be created. -/
def creationFailed : String := "process creation failed!"

/-- The reports of failed checks. -/
def accusations : List String :=
  ["join failed on a valid child", "second join was accepted", "halt refused"]

/-- All other lines that the self test prints. -/
def announcements : List String :=
  ["testing exec and join of a child that reads input and tries to halt", creationFailed,
    "joined child with exit status 0", "joining the same child again", "second join rejected",
    "running two children concurrently", "joined both children", "halting"]

end SelfTest

/-- The pids, the memory and the starts are enough for all children of the self test. -/
def Home.Suffices (home : Home) : Prop :=
  home.unlimited ∧ 3 ≤ home.maxPid ∧ home.childPages * 2 ≤ home.loader.freePages

namespace SelfTest

/-- How the self test may end. -/
def Allowed (home : Home) : Fate → Progress → Prop
  | .returned status, progress =>
    ¬home.Suffices ∧ status = Program.failedStatus ∧ progress.lines.head? = some creationFailed ∧
      progress.lines ⊆ announcements
  | .halted, progress => progress.lines ⊆ announcements
  | .exhausted, progress => ¬home.Suffices ∧ progress.lines ⊆ announcements

/-- The self test as it is installed. -/
def joinTestImage : Image Main := ⟨Program.joinTestName, 4, Program.joinTest⟩

/-- The program that the self test starts first, as it is installed. -/
def echoImage : Image Main := ⟨Program.echoName, 2, Program.echo⟩

/-- The program that prints its arguments, as it is installed. -/
def printArgumentsImage : Image Main := ⟨Program.printArgumentsName, 2, Program.printArguments⟩

/-- The programs of the self test are installed. -/
structure Installed (registry : ImageRegistry Main) : Prop where
  joinTest : registry.find? Program.joinTestName = some joinTestImage
  echo : registry.find? Program.echoName = some echoImage
  printArguments : registry.find? Program.printArgumentsName = some printArgumentsImage

/-- They are among the built-in programs, in whose place no other image may be installed. -/
theorem installed_registryWith {images : List (Image Main)}
    (apart : ∀ image ∈ images, ∀ builtin ∈ Program.builtins, image.name ≠ builtin.image.name) :
    Installed (Simulator.registryWith images) := by
  have kept (name : String)
      (builtin : name ∈ Program.builtins.map fun builtin => builtin.image.name) :
      (Simulator.registryWith images).find? name = (Simulator.registryWith []).find? name := by
    rcases List.mem_map.mp builtin with ⟨listed, member, rfl⟩
    rw [Simulator.registryWith, ImageRegistry.ofList, List.foldl_append,
      ImageRegistry.find?_foldl_install _ fun image also => apart image also listed member]
    rfl
  exact {
    joinTest := (kept Program.joinTestName (by decide)).trans rfl
    echo := (kept Program.echoName (by decide)).trans rfl
    printArguments := (kept Program.printArgumentsName (by decide)).trans rfl }

variable {home : Home} {progress : Progress}

theorem Installed.admits_echo {loader : Loader Main} (installed : Installed loader.registry) :
    loader.Admits Program.echoName [Program.echoName] echoImage :=
  ⟨by decide, installed.echo, by decide, by decide⟩

theorem Installed.admits_printArguments {loader : Loader Main} {arguments : List String}
    (installed : Installed loader.registry)
    (brief : ∀ argument ∈ arguments, argument.utf8ByteSize ≤ maxTextBytes)
    (small : argumentBytes arguments ≤ argumentPages * pageSize) :
    loader.Admits Program.printArgumentsName arguments printArgumentsImage :=
  ⟨by decide, installed.printArguments, brief, small⟩

theorem affords_of_suffices (enough : home.Suffices) (few : progress.created ≤ 2)
    (free : progress.children.length ≤ 1) : home.Affords progress := by
  rcases enough with ⟨unlimited, pids, pages⟩
  refine ⟨unlimited, by omega, ?_⟩
  exact (Nat.mul_le_mul_left home.childPages (by omega)).trans pages

/-- The end of the self test when a child could not be created. -/
theorem ensures_failed (short : ¬home.Suffices) (quiet : progress.Quiet)
    (known : progress.lines ⊆ announcements) :
    (Program.failed creationFailed).Ensures home (Allowed home) progress := by
  refine ⟨creationFailed, rfl, rfl, fun _ => ⟨quiet, short, rfl, rfl, ?_⟩⟩
  apply List.cons_subset.mpr
  exact ⟨by simp [announcements], known⟩

/-- Only where there is too little for all children can one of them be refused. -/
theorem affords_or_allowed (few : progress.created ≤ 2) (free : progress.children.length ≤ 1)
    (known : progress.lines ⊆ announcements) {program : Program Int32}
    (fails : ¬home.Suffices → program.Ensures home (Allowed home) progress) :
    home.Affords progress ∨
      Allowed home .exhausted progress ∧ program.Ensures home (Allowed home) progress := by
  by_cases enough : home.Suffices
  · exact Or.inl (affords_of_suffices enough few free)
  · exact Or.inr ⟨⟨enough, known⟩, fails enough⟩

theorem quiet_of_childless (childless : progress.children = []) : progress.Quiet := by
  rw [Progress.Quiet, childless]
  exact List.forall_mem_nil _

/-- A child that prints its arguments does not ask to halt the machine. -/
theorem quiet_creates (quiet : progress.Quiet) (arguments : List String) :
    (progress.creates Program.printArguments arguments).Quiet :=
  List.forall_mem_cons.mpr ⟨Program.Modest.printArguments arguments, quiet⟩

/-- Whatever becomes of its children, the self test comes to an end that is allowed. -/
theorem ensures_joinTest (installed : Installed home.loader.registry)
    (pages : 2 = home.imagePages) (arguments : List String) :
    (Program.joinTest arguments).Ensures home (Allowed home) .start := by
  have first : home.loader.Admits Program.printArgumentsName
      [Program.printArgumentsName, "hey from process 1"] printArgumentsImage :=
    installed.admits_printArguments (by decide) (by decide)
  have second : home.loader.Admits Program.printArgumentsName
      [Program.printArgumentsName, "hello from process 2"] printArgumentsImage :=
    installed.admits_printArguments (by decide) (by decide)
  unfold Program.joinTest
  apply Program.ensures_printLine
  apply Program.ensures_spawn installed.admits_echo pages (Program.Modest.echo [Program.echoName])
    (by decide)
  · apply Program.ensures_wait_child ⟨1⟩ rfl (by decide)
    apply Program.ensures_printLine
    apply Program.ensures_printLine
    apply Program.ensures_wait_stranger ⟨1⟩ rfl (by decide)
    rw [if_neg (by decide)]
    apply Program.ensures_printLine
    apply Program.ensures_printLine
    apply Program.ensures_spawn first pages (Program.Modest.printArguments _)
      (by decide)
    · apply Program.ensures_spawn second pages (Program.Modest.printArguments _)
        (by decide)
      · apply Program.ensures_wait_child ⟨2⟩ rfl (by decide)
        apply Program.ensures_wait_child ⟨3⟩ rfl (by decide)
        rw [if_neg (by decide)]
        apply Program.ensures_printLine
        apply Program.ensures_printLine
        apply Program.ensures_tryHalt rfl
        change Progress.lines _ ⊆ announcements
        decide
      · -- The first child of the two may be left behind, and may not have run.
        apply affords_or_allowed (by decide) (by decide) (by decide)
        intro short
        exact ensures_failed short (quiet_creates (quiet_of_childless rfl) _) (by decide)
    · apply affords_or_allowed (by decide) (by decide) (by decide)
      intro short
      apply Program.ensures_spawn second pages (Program.Modest.printArguments _)
        (by decide)
      · exact ensures_failed short (quiet_creates (quiet_of_childless rfl) _) (by decide)
      · apply affords_or_allowed (by decide) (by decide) (by decide)
        intro _
        exact ensures_failed short (quiet_of_childless rfl) (by decide)
  · apply affords_or_allowed (by decide) (by decide) (by decide)
    intro short
    exact ensures_failed short (quiet_of_childless rfl) (by decide)

/-! ### Runs -/

/-- The machine was halted by the first process, which is all that is left. -/
structure HaltsAlone (config : KernelConfig) (report : Report) : Prop where
  exit : report.exit = .requested .root
  root : report.root = none
  processes : report.processes = [⟨.root, none, .running, [], some Program.joinTestName⟩]
  /-- It owns its code, its stack and its arguments, if 64 bits can hold their number. -/
  pagesInUse : 5 + config.stackPages < values64 → report.pagesInUse = 5 + config.stackPages

/-- The first process gave up because a child could not be created, and all processes ended. -/
structure GivesUp (machine : Machine) (report : Report) : Prop where
  exit : report.exit = .allExited
  root : report.root = some (.exit Program.failedStatus)
  last : (machine.chunks .root).head? = some (lineBytes creationFailed)

/-- Nothing that the first process has written contains the report of a failed check. -/
def AccusesNobody (machine : Machine) : Prop :=
  ∀ chunk ∈ machine.chunks .root, ∀ text ∈ accusations, ¬Utf8.encode text <:+: chunk

theorem accusesNobody {machine : Machine} (known : progress.lines ⊆ announcements)
    (chunks_eq : machine.chunks .root = progress.lines.map lineBytes) : AccusesNobody machine := by
  have apart : ∀ line ∈ announcements, ∀ text ∈ accusations,
      ¬Utf8.encode text <:+: lineBytes line := by
    decide +kernel
  intro chunk member
  rw [chunks_eq] at member
  rcases List.mem_map.mp member with ⟨line, printed, rfl⟩
  exact apart line (known printed)

section Runs

variable {config : KernelConfig} {registry : ImageRegistry Main} {startsLeft : Option Nat}
  {arguments : List String} {space : AddressSpace} {loader : Loader Main}

theorem suffices_ofBoot (startsLeft : Option Nat) (installed : Installed registry)
    (narrow : config.physPages < values32)
    (loads : (Kernel.boot config registry).loader.load Program.joinTestName arguments =
      .ok (⟨Program.joinTest, space⟩, loader))
    (pages : 3 * config.stackPages + 11 ≤ config.physPages)
    (pids : 3 ≤ config.maxPid) (unlimited : startsLeft = none) :
    (Home.ofBoot config startsLeft loader space 2).Suffices := by
  rcases Kernel.loads_boot narrow installed.joinTest loads with ⟨_, stack, _, _, counted, all⟩
  refine ⟨unlimited, ?_, ?_⟩
  · change 3 ≤ min config.maxPid pidLimit
    rw [pidLimit]
    omega
  · change (2 + loader.stackPages + argumentPages) % values64 * 2 ≤ loader.freePages
    simp only [joinTestImage, argumentPages, values64] at counted all ⊢
    omega

/-- The end of a run in which a child could not be created. -/
theorem exists_report_of_orphans {home : Home} {last : Progress} {machine : Machine}
    {status : Int32} (orphans : machine.Orphans home status last) (off : machine.isHalted = true)
    (allowed : Allowed home (.returned status) last) :
    ∃ report, Report.ofMachine? Program.joinTestName .root machine = some report ∧
      GivesUp machine report := by
  have stopped : machine.halted = some .allExited := by
    have shape := orphans.halted_eq
    rw [Machine.isHalted, shape] at off
    split at off
    · rw [shape]
      exact if_pos ‹_›
    · cases off
  rcases Report.exists_of_halted stopped Program.joinTestName .root with
    ⟨report, reports, exit, root, _⟩
  rcases allowed with ⟨_, rfl, printed, _⟩
  refine ⟨report, reports, exit, ?_, ?_⟩
  · rw [root, Report.outcome?, orphans.root_exited]
  · rw [orphans.chunks_eq, List.head?_map, printed]
    rfl

/-- The end of a run in which all checks were made. -/
theorem exists_report_of_alone (installed : Installed registry)
    (narrow : config.physPages < values32)
    (loads : (Kernel.boot config registry).loader.load Program.joinTestName arguments =
      .ok (⟨Program.joinTest, space⟩, loader)) {machine : Machine} {created : Nat}
    (stopped : machine.halted = some (.requested .root))
    (alone : machine.system.kernel.Family (.ofBoot config startsLeft loader space 2) [] []
      created) :
    ∃ report, Report.ofMachine? Program.joinTestName .root machine = some report ∧
      HaltsAlone config report := by
  rcases Kernel.loads_boot narrow installed.joinTest loads with ⟨_, _, total, named, counted, all⟩
  rcases Report.exists_of_halted stopped Program.joinTestName .root with
    ⟨report, reports, exit, root, pages, processes⟩
  refine ⟨report, reports, exit, ?_, ?_, ?_⟩
  · rw [root, Report.outcome?, alone.root_running]
  · rw [processes, alone.snapshot_eq, ← named]
    rfl
  · intro fits
    rw [pages, alone.pagesInUse_eq]
    change loader.totalPages - loader.freePages = 5 + config.stackPages
    simp only [joinTestImage, argumentPages, values64] at counted fits
    omega

/--
Whatever is read from the console and in whatever order processes run, the self test halts the
machine or gives up for lack of memory or starts, unless the pids run out. It never reports that a
check failed, and if there is enough of everything, it halts the machine.
-/
theorem self_test_never_fails_falsely (installed : Installed registry) (config : KernelConfig)
    (narrow : config.physPages < values32) (input : List UInt8) (schedule : Schedule)
    (startsLeft : Option Nat) (arguments : List String) :
    (∀ root machine,
      (Machine.switchedOn config registry input schedule startsLeft).run Program.joinTestName
          arguments = (.ok root, machine) →
        ∃ report, Report.ofMachine? Program.joinTestName root machine = some report ∧
          (HaltsAlone config report ∨ GivesUp machine report ∨
            report.exit = .pidSpaceExhausted) ∧
            AccusesNobody machine ∧
              (3 * config.stackPages + 11 ≤ config.physPages → 3 ≤ config.maxPid →
                startsLeft = none → HaltsAlone config report)) ∧
      (5 + config.stackPages ≤ config.physPages → startsLeft = none →
        (∀ argument ∈ arguments, argument.utf8ByteSize ≤ maxTextBytes) →
          argumentBytes arguments ≤ argumentPages * pageSize →
            ∃ machine, (Machine.switchedOn config registry input schedule startsLeft).run
              Program.joinTestName arguments = (.ok .root, machine)) := by
  constructor
  · intro root machine boots
    have ensures {space : AddressSpace} {loader : Loader Main}
        (loads : (Kernel.boot config registry).loader.load Program.joinTestName arguments =
          .ok (⟨Program.joinTest, space⟩, loader)) :
        (Program.joinTest arguments).Ensures (.ofBoot config startsLeft loader space 2)
          (Allowed (.ofBoot config startsLeft loader space 2)) .start := by
      rcases Kernel.loads_boot narrow installed.joinTest loads with ⟨rfl, _⟩
      exact ensures_joinTest installed rfl arguments
    rcases Machine.leaves_run 2 Allowed installed.joinTest ensures boots with
      ⟨rfl, space, loader, fate, last, loads, allowed, leaves, off⟩
    have enough := suffices_ofBoot startsLeft installed narrow loads
    cases leaves with
    | returned orphans =>
        rcases exists_report_of_orphans orphans off allowed with ⟨report, reports, gaveUp⟩
        rcases allowed with ⟨short, _, _, known⟩
        refine ⟨report, reports, Or.inr (Or.inl gaveUp), accusesNobody known orphans.chunks_eq, ?_⟩
        exact fun pages pids unlimited => absurd (enough pages pids unlimited) short
    | halted stopped alone chunks_eq =>
        rcases exists_report_of_alone installed narrow loads stopped alone with
          ⟨report, reports, halts⟩
        exact ⟨report, reports, Or.inl halts, accusesNobody allowed chunks_eq, fun _ _ _ => halts⟩
    | exhausted stopped _ chunks_eq =>
        rcases Report.exists_of_halted stopped Program.joinTestName .root with
          ⟨report, reports, exit, _⟩
        rcases allowed with ⟨short, known⟩
        refine ⟨report, reports, Or.inr (Or.inr exit), accusesNobody known chunks_eq, ?_⟩
        exact fun pages pids unlimited => absurd (enough pages pids unlimited) short
  · rintro pages rfl brief small
    have admits : (Kernel.boot config registry).loader.Admits Program.joinTestName arguments
        joinTestImage :=
      ⟨by decide, installed.joinTest, brief, small⟩
    apply Machine.exists_run_of_admits admits
    have free : (Kernel.boot config registry).loader.freePages = config.physPages :=
      Loader.freePages_ofRegistry registry config.stackPages narrow
    rw [free]
    change (4 + config.stackPages + argumentPages) % values64 ≤ config.physPages
    rw [argumentPages, values64]
    omega

/-- Three processes fit into 35 pages. With one page less, a child is refused if none has run. -/
theorem self_test_gives_up_for_want_of_one_page :
    Installed (Simulator.registryWith []) ∧ (35 : Nat) < values32 ∧
      (∃ report machine,
        (Machine.switchedOn ⟨35, 8, 3⟩ (Simulator.registryWith []) (Utf8.encode "ping") .lifo
          none).run Program.joinTestName [Program.joinTestName] = (.ok .root, machine) ∧
          Report.ofMachine? Program.joinTestName .root machine = some report ∧
            HaltsAlone ⟨35, 8, 3⟩ report ∧ AccusesNobody machine) ∧
        ∃ report machine,
          (Machine.switchedOn ⟨34, 8, 3⟩ (Simulator.registryWith []) (Utf8.encode "ping") .lifo
            none).run Program.joinTestName [Program.joinTestName] = (.ok .root, machine) ∧
            Report.ofMachine? Program.joinTestName .root machine = some report ∧
              GivesUp machine report ∧ AccusesNobody machine := by
  have installed : Installed (Simulator.registryWith []) :=
    installed_registryWith (List.forall_mem_nil _)
  refine ⟨installed, by decide, ?_, ?_⟩
  · rcases self_test_never_fails_falsely installed ⟨35, 8, 3⟩ (by decide) (Utf8.encode "ping") .lifo
      none [Program.joinTestName] with ⟨ends, starts⟩
    rcases starts (by decide) rfl (by decide) (by decide) with ⟨machine, boots⟩
    rcases ends _ _ boots with ⟨report, reports, _, honest, halts⟩
    exact ⟨report, machine, boots, reports, halts (by decide) (by decide) rfl, honest⟩
  · have stops : ((Machine.switchedOn ⟨34, 8, 3⟩ (Simulator.registryWith []) (Utf8.encode "ping")
        .lifo none).run Program.joinTestName [Program.joinTestName]).2.halted =
          some .allExited := by
      decide +kernel
    rcases self_test_never_fails_falsely installed ⟨34, 8, 3⟩ (by decide) (Utf8.encode "ping") .lifo
      none [Program.joinTestName] with ⟨ends, starts⟩
    rcases starts (by decide) rfl (by decide) (by decide) with ⟨machine, boots⟩
    rw [boots] at stops
    rcases Report.exists_of_halted stops Program.joinTestName .root with ⟨other, shown, exit, _⟩
    rcases ends _ _ boots with ⟨report, reports, outcome, honest, _⟩
    have same : other = report := Option.some.inj (shown.symm.trans reports)
    subst other
    refine ⟨report, machine, boots, reports, ?_, honest⟩
    rcases outcome with halts | gaveUp | exhausted
    · cases exit.symm.trans halts.exit
    · exact gaveUp
    · cases exit.symm.trans exhausted

/-- The test in a small memory, with as many stack pages as 64 bits can count. -/
def uncountableRun : Except ExecError Pid × Machine :=
  (Machine.switchedOn ⟨256, values64 - 1, defaultMaxPid⟩ (Simulator.registryWith []) [] .fifo
    none).run Program.joinTestName [Program.joinTestName]

/-- It passes, and its four pages of code are all that is in use. -/
theorem self_test_passes_with_uncountable_stack :
    uncountableRun.1 = .ok .root ∧
      ∃ report, Report.ofMachine? Program.joinTestName .root uncountableRun.2 = some report ∧
        report.exit = .requested .root ∧ report.pagesInUse = 4 ∧
          report.pagesInUse ≠ 5 + (values64 - 1) := by
  have ends : uncountableRun.1 = .ok .root ∧ uncountableRun.2.halted = some (.requested .root) ∧
      uncountableRun.2.system.kernel.loader.pagesInUse = 4 := by
    decide +kernel
  rcases ends with ⟨boots, stops, four⟩
  rcases Report.exists_of_halted stops Program.joinTestName .root with
    ⟨report, reports, exit, _, pages, _⟩
  rw [four] at pages
  refine ⟨boots, report, reports, exit, pages, ?_⟩
  rw [pages]
  decide

end Runs

end SelfTest

end Lifecycle
