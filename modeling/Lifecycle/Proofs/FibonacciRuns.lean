import Lifecycle.Proofs.ChildRuns
import Lifecycle.Proofs.FibonacciRecursion

/-!
# Runs of the Fibonacci program

A process of the program does on a machine what the recursion says, however many processes already
wait for it and whatever the schedule. The induction is on the index; its hypothesis says how the
children run, and each of them runs to its end while its creator starts it or waits for it.
-/

namespace Lifecycle.Fibonacci

open Machine

/-! ### Memory -/

/-- The program as it is installed. -/
def image : Image Main := ⟨Program.fibonacciName, 3, Program.fibonacci⟩

/-- The arguments that a process for this index gets. -/
def arguments (index : Nat) : List String := [Program.fibonacciName, toString index]

/-- How many more processes fit into the memory. -/
def room (loader : Loader Main) : Nat := loader.freePages / loader.pagesFor image

/-- The program is installed, and each of its processes takes up memory. -/
structure Loadable (loader : Loader Main) : Prop where
  installed : loader.registry.find? Program.fibonacciName = some image
  positive : 0 < loader.pagesFor image

section Load

variable {loader : Loader Main} {index : Nat}

/-- Only the memory decides whether a process can be loaded. -/
theorem admits (installed : loader.registry.find? Program.fibonacciName = some image)
    (inRange : index < 2 ^ 31) :
    loader.Admits Program.fibonacciName (arguments index) image := by
  have short := Numeral.utf8ByteSize_toString_le inRange
  have named : Program.fibonacciName.utf8ByteSize = 14 := rfl
  refine ⟨by decide, installed, ?_, ?_⟩
  · intro argument member
    simp only [arguments, List.mem_cons, List.not_mem_nil, or_false] at member
    rw [maxTextBytes]
    rcases member with rfl | rfl
    all_goals omega
  · simp only [argumentPages, pageSize, argumentBytes, arguments, List.foldr, argumentSlotBytes,
      named]
    omega

theorem load_of_full (loadable : Loadable loader) (inRange : index < 2 ^ 31)
    (full : room loader = 0) :
    loader.load Program.fibonacciName (arguments index) = .error .outOfMemory := by
  have short : loader.freePages < loader.pagesFor image := by
    rcases Nat.div_eq_zero_iff.mp full with none | short
    · exact absurd none (Nat.ne_of_gt loadable.positive)
    · exact short
  rw [(admits loadable.installed inRange).load_eq, if_neg (Nat.not_le_of_lt short)]

theorem exists_load (loadable : Loadable loader) (inRange : index < 2 ^ 31) {more : Nat}
    (fits : room loader = more + 1) :
    ∃ space next,
      loader.load Program.fibonacciName (arguments index) = .ok (⟨Program.fibonacci, space⟩, next) ∧
        room next = more ∧ Loadable next := by
  rcases loadable with ⟨installed, positive⟩
  have enough : loader.pagesFor image ≤ loader.freePages := by
    apply Nat.le_of_not_lt
    intro short
    rw [room, Nat.div_eq_of_lt short] at fits
    omega
  rw [(admits installed inRange).load_eq, if_pos enough]
  refine ⟨_, _, rfl, ?_, installed, positive⟩
  have left := Nat.div_eq_sub_div positive enough
  rw [room] at fits
  simp only [room, Loader.withFree, Loader.freePages, FramePool.freeCount, List.length_drop]
  change (loader.freePages - loader.pagesFor image) / loader.pagesFor image = more
  omega

end Load

/-! ### Programs -/

/-- What a parent does with the end of its child. -/
def afterWait : Program.JoinStatus → Program Int32
  | .exited status =>
    if status = Program.outOfMemoryStatus then Program.outOfMemory else .done status
  | .abnormal => Program.outOfMemory
  | .invalid => Program.outOfMemory

/-- What a parent does with the reply to its `exec`. -/
def afterExec (reply : Int32) : Program Int32 :=
  if 0 ≤ reply then
    .join reply fun value status => afterWait (.ofReply value (status.getD 0))
  else Program.outOfMemory

/-- What a parent does with the outcome of its `exec`. -/
def afterSpawn : Except Program.SpawnError Int32 → Program Int32
  | .error _ => Program.outOfMemory
  | .ok pid => .join pid fun value status => afterWait (.ofReply value (status.getD 0))

theorem afterExec_eq_afterSpawn :
    afterExec = fun reply => afterSpawn (if 0 ≤ reply then .ok reply else .error .execFailed) := by
  funext reply
  unfold afterExec
  split <;> rfl

theorem afterExec_failure : afterExec Syscall.Reply.failure.value = Program.outOfMemory :=
  if_neg (by decide)

theorem afterExec_ofNat {number : Nat} (inRange : number ≤ pidLimit) :
    afterExec (Int32.ofNat number) =
      .join (Int32.ofNat number) fun value status => afterWait (.ofReply value (status.getD 0)) := by
  apply if_pos
  rw [Int32.le_iff_toInt_le, Pid.toInt_ofNat inRange]
  simp

theorem fibonacciChild_eq {index : Nat} (inRange : index < 2 ^ 31) :
    Program.fibonacciChild (Int32.ofNat index) =
      .exec Program.fibonacciName (arguments index) afterExec := by
  rw [arguments, ← Numeral.ofInt32_ofNat inRange, afterExec_eq_afterSpawn]
  rfl

theorem fibonacciOf_add_two {index : Nat} (inRange : index + 2 < 2 ^ 31) :
    Program.fibonacciOf (Int32.ofNat (index + 2)) =
      Program.bind (fun former =>
        Program.bind (fun latter =>
          .write outputDescriptor
            (Utf8.encode ("fibonacci(" ++ toString (index + 2) ++ ") = " ++
              Numeral.ofInt32 (former + latter) ++ "\n"))
            fun _ => .done (former + latter))
          (Program.fibonacciChild (Int32.ofNat (index + 1))))
        (Program.fibonacciChild (Int32.ofNat index)) := by
  have integer : (Int32.ofNat (index + 2)).toInt = index + 2 := Int32.toInt_ofNat_of_lt inRange
  have positive : ¬Int32.ofNat (index + 2) ≤ 0 := by
    rw [Int32.le_iff_toInt_le, integer]
    simp
    omega
  have other : Int32.ofNat (index + 2) ≠ 1 := by
    intro same
    have number := congrArg Int32.toInt same
    rw [integer] at number
    have one : (1 : Int32).toInt = 1 := rfl
    omega
  have former : Int32.ofNat (index + 2) - 2 = Int32.ofNat index := by
    rw [Int32.ofNat_add]
    exact Int32.add_sub_cancel _ _
  have latter : Int32.ofNat (index + 2) - 1 = Int32.ofNat (index + 1) := by
    have next : index + 2 = index + 1 + 1 := rfl
    rw [next, Int32.ofNat_add (index + 1) 1]
    exact Int32.add_sub_cancel _ _
  rw [Program.fibonacciOf, if_neg positive, if_neg other, former, latter,
    Numeral.ofInt32_ofNat inRange]
  rfl

/-! ### Processes -/

section Follow

variable {machine : Machine} {pid : Pid}

/-- A process that gives up prints a message and ends. -/
theorem describes_fails (patience : Nat) (runOther : Machine → Machine)
    (hosts : machine.Hosts pid) :
    Describes fails pid machine
      (follow (engineWith patience runOther) pid Program.outOfMemory machine) := by
  have program : (Program.outOfMemory : Program Int32) =
      .write outputDescriptor (Utf8.encode ("Machine ran out of memory" ++ "\n")) fun _ =>
        .exit Program.outOfMemoryStatus := rfl
  rcases serve_write patience runOther machine pid
    (Utf8.encode ("Machine ran out of memory" ++ "\n")) hosts.live with ⟨middle, wrote⟩
  rcases serve_exit patience runOther
    { (machine.counted .write).written (Utf8.encode ("Machine ran out of memory" ++ "\n")) with
      log := middle }
    Program.outOfMemoryStatus hosts.live hosts.kernel.wellFormed hosts.kernel.running with
    ⟨last, exited⟩
  refine ⟨last, ?_⟩
  rw [program, follow, wrote]
  have left := congrArg (Prod.mk Ending.stopped) exited
  exact left

theorem describes_afterWait (patience : Nat) (runOther : Machine → Machine)
    (hosts : machine.Hosts pid) (status : Int32) :
    Describes (receives status) pid machine
      (follow (engineWith patience runOther) pid (afterWait (.exited status)) machine) := by
  rw [afterWait, receives]
  split
  · exact describes_fails patience runOther hosts
  · exact ⟨machine.log, rfl⟩

/-- A process that has both numbers prints their sum and returns it. -/
theorem describes_adds (patience : Nat) (runOther : Machine → Machine)
    (live : machine.halted = none) (pid : Pid) (index : Nat) (sum : Int32) :
    Describes (adds index sum) pid machine
      (follow (engineWith patience runOther) pid
        (.write outputDescriptor
          (Utf8.encode ("fibonacci(" ++ toString index ++ ") = " ++ Numeral.ofInt32 sum ++ "\n"))
          fun _ => .done sum) machine) := by
  rcases serve_write patience runOther machine pid
    (Utf8.encode ("fibonacci(" ++ toString index ++ ") = " ++ Numeral.ofInt32 sum ++ "\n")) live
    with ⟨log, wrote⟩
  refine ⟨log, ?_⟩
  rw [follow, wrote]
  rfl

end Follow

/-! ### Children -/

/-- A machine on which a process of the program runs. -/
structure Computes (machine : Machine) (pid : Pid) : Prop extends machine.Hosts pid where
  loadable : Loadable machine.system.kernel.loader

/-- On every machine, a process that is ready runs to its end and does what the recursion says. -/
def RunsOutAt (runOther : Machine → Machine) (index : Nat) : Prop :=
  ∀ (machine : Machine) (pid : Pid), Computes machine pid →
    machine.system.kernel.table.nextPid + processes index ≤
        machine.system.kernel.table.maxPid + 2 →
      machine.RunsOut runOther ⟨pid, Program.fibonacci, arguments index⟩
        (run index (room machine.system.kernel.loader))

section Child

variable {machine : Machine} {pid : Pid} {index : Nat}

/-- A child that its creator has just launched runs as the recursion says. -/
theorem RunsOutAt.launched {runOther : Machine → Machine} {base : Machine} {space : AddressSpace}
    {loader : Loader Main} (runs : RunsOutAt runOther index)
    (inRange : machine.system.kernel.table.nextPid + processes index ≤
      machine.system.kernel.table.maxPid + 1)
    (loadable : Loadable loader)
    (hosts : base.Hosts machine.nextPid)
    (table : base.system.kernel.table =
      (machine.system.kernel.launched (some pid) space loader).table)
    (same : base.system.kernel.loader = loader) :
    base.RunsOut runOther ⟨machine.nextPid, Program.fibonacci, arguments index⟩
      (run index (room loader)) := by
  have again : Loadable base.system.kernel.loader := by
    rw [same]
    exact loadable
  have child := runs base machine.nextPid ⟨hosts, again⟩
  rw [table, same] at child
  apply child
  change machine.system.kernel.table.nextPid + 1 + processes index ≤
    machine.system.kernel.table.maxPid + 2
  omega

theorem describes_child (patience : Nat) (runOther : Machine → Machine)
    (computes : Computes machine pid)
    (inRange : machine.system.kernel.table.nextPid + processes index ≤
      machine.system.kernel.table.maxPid + 1)
    (runs : RunsOutAt runOther index) :
    Describes (inChild (run index) (room machine.system.kernel.loader)) pid machine
      (follow (engineWith (patience + 1) runOther) pid
        (Program.fibonacciChild (Int32.ofNat index)) machine) := by
  have capped := computes.kernel.capped
  have positive := processes_pos index
  have small : index < 2 ^ 31 := by
    apply index_lt
    simp only [pidLimit] at capped
    omega
  have free : machine.system.kernel.table.nextPid ≤ machine.system.kernel.table.maxPid := by omega
  rw [fibonacciChild_eq small]
  cases capacity : room machine.system.kernel.loader with
  | zero =>
      have failed := load_of_full computes.loadable small capacity
      rcases computes.kernel.prepare_of_unloadable free failed with ⟨effects, calm, prepared⟩
      rcases serve_exec_of_error (patience + 1) runOther machine computes.live calm prepared with
        ⟨log, refused⟩
      have counted : Hosts { machine.counted .exec with log := log } pid :=
        ⟨computes.kernel, computes.live, computes.idle, computes.unlimited⟩
      rw [inChild, follow_exec_of_serve refused, afterExec_failure]
      apply Describes.of_after log rfl
      exact describes_fails (patience + 1) runOther counted
  | succ more =>
      rcases exists_load computes.loadable small capacity with
        ⟨space, loader, built, left, loadable⟩
      have bounded := created_run_lt index more
      rw [← left] at bounded
      rcases follow_exec_join computes.toHosts built patience runOther (by omega)
        (fun base => runs.launched inRange loadable)
        (afterExec_ofNat (Nat.le_trans free capped)) with ⟨log, goesOn⟩
      have collected :
          Hosts { machine.after (run index (room loader)).collects with log := log } pid := by
        apply Hosts.withLog
        apply computes.toHosts.after
        change machine.system.kernel.table.nextPid + ((run index (room loader)).created + 1) ≤
          machine.system.kernel.table.maxPid + 1
        omega
      rw [inChild, goesOn, ← left]
      apply Describes.of_after log rfl
      exact describes_afterWait (patience + 1) runOther collected (run index (room loader)).status

/-- A process does what the recursion says if all its children would. -/
theorem describes_fibonacciOf (patience : Nat) (runOther : Machine → Machine) :
    ∀ (index : Nat) {machine : Machine} {pid : Pid}, Computes machine pid →
      machine.system.kernel.table.nextPid + processes index ≤
          machine.system.kernel.table.maxPid + 2 →
        (∀ smaller, smaller < index → RunsOutAt runOther smaller) →
          Describes (run index (room machine.system.kernel.loader)) pid machine
            (follow (engineWith (patience + 1) runOther) pid
              (Program.fibonacciOf (Int32.ofNat index)) machine)
  | 0, machine, _, _, _, _ => ⟨machine.log, rfl⟩
  | 1, machine, _, _, _, _ => ⟨machine.log, rfl⟩
  | index + 2, machine, pid, computes, inRange, runs => by
      have count : processes (index + 2) = 1 + processes index + processes (index + 1) := rfl
      have capped := computes.kernel.capped
      have below := computes.kernel.lt_nextPid
      have narrow : processes (index + 2) ≤ 2 ^ 31 := by
        simp only [pidLimit] at capped
        omega
      rw [fibonacciOf_add_two (index_lt narrow), run_add_two]
      apply Describes.bind
      · exact describes_child patience runOther computes (by omega) (runs index (by omega))
      · intro goesOn log
        have created := created_inChild_le (created_run_lt index)
          (room machine.system.kernel.loader)
        have inside : machine.system.kernel.table.nextPid +
            (inChild (run index) (room machine.system.kernel.loader)).created ≤
              machine.system.kernel.table.maxPid + 1 := by omega
        have hosts := computes.toHosts.after inside
        apply Describes.bind
        · apply describes_child patience runOther ⟨hosts.withLog log, computes.loadable⟩
          · change machine.system.kernel.table.nextPid +
              (inChild (run index) (room machine.system.kernel.loader)).created +
                processes (index + 1) ≤ machine.system.kernel.table.maxPid + 1
            omega
          · exact runs (index + 1) (by omega)
        · intro goesOn later
          apply describes_adds (patience + 1) runOther
          exact computes.live

/-- A process that is ready runs to its end as the recursion says if all its children would. -/
theorem runsOutAt (patience : Nat) (runOther : Machine → Machine) (index : Nat)
    (runs : ∀ smaller, smaller < index → RunsOutAt runOther smaller) :
    RunsOutAt (runNext (engineWith (patience + 1) runOther)) index := by
  intro machine pid computes inRange
  have created := created_run_lt index (room machine.system.kernel.loader)
  have described := describes_fibonacciOf patience runOther index computes inRange runs
  rw [← Numeral.toInt32_toString] at described
  apply runsOut_of_describes (patience + 1) runOther computes.toHosts (by omega)
  exact described

/-- Every process that is ready runs to its end where runs may nest deep enough. -/
theorem runsOutAt_engine (patience : Nat) :
    ∀ depth index : Nat, index ≤ depth → RunsOutAt (runNext (engine (patience + 1) depth)) index
  | 0, index, shallow => runsOutAt patience id index fun smaller below => by omega
  | depth + 1, index, shallow =>
      runsOutAt patience (fun machine => runNext (engine (patience + 1) depth) machine) index
        fun smaller below => runsOutAt_engine patience depth smaller (by omega)

end Child

end Lifecycle.Fibonacci
