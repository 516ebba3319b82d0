import Lifecycle.Machine
import Lifecycle.Proofs.KernelOperations

/-!
# Calls of a running machine

What the calls of a process make of a machine, up to the log. Creating a process and waiting for one
let other processes run, so these calls are stated for whatever other processes do meanwhile.
-/

namespace Lifecycle

namespace Kernel

variable {E : Type}

@[simp]
theorem signals_creationRecords (parent : Option Pid) (name : String)
    (result : Except ExecError Pid) : signals (creationRecords parent name result) = [] := by
  cases parent <;> cases result <;> rfl

/-- The kernel after `pid` entered the wait queue of `target`. -/
def awaiting (kernel : Kernel E) (pid target : Pid) : Kernel E :=
  { kernel with waiters := kernel.waiters.add target pid }

/-- The kernel after `pid` collected its child `target`. -/
def collected (kernel : Kernel E) (pid target : Pid) : Kernel E :=
  { kernel with
    table := kernel.table.collected pid target
    waiters := (kernel.waiters.add target pid).remove target pid }

end Kernel

namespace Machine

/-! ### Effects -/

/-- Only the first reason to power off counts. -/
def haltedBy (halted : Option HaltReason) : Effect → Option HaltReason
  | .powerOff reason => some (halted.getD reason)
  | _ => halted

/-- Effects change the log, and may stop the machine. -/
theorem foldl_carryOut (effects : List Effect) (machine : Machine) :
    ∃ log, effects.foldl carryOut machine =
      { machine with
        halted := (signals effects).foldl haltedBy machine.halted
        log := log } := by
  induction effects generalizing machine with
  | nil => exact ⟨machine.log, rfl⟩
  | cons effect effects ih =>
      rcases ih (carryOut machine effect) with ⟨log, rest⟩
      refine ⟨log, ?_⟩
      rw [List.foldl_cons, rest]
      cases effect <;> rfl

/-- Of what the end of a process signals, only the end of the last one stops the machine. -/
theorem foldl_departureSignals (kernel : Kernel Main) (pid : Pid) (halted : Option HaltReason) :
    (kernel.departureSignals pid).foldl haltedBy halted =
      if kernel.table.running = 1 then some (halted.getD .allExited) else halted := by
  have woken (pids : List Pid) : (pids.map Effect.wake).foldl haltedBy halted = halted := by
    induction pids with
    | nil => rfl
    | cons waiter pids ih => exact ih
  rw [Kernel.departureSignals, List.foldl_append, woken]
  split <;> rfl

/-! ### What calls leave -/

/-- The pid of the process that is created next. -/
abbrev nextPid (machine : Machine) : Pid := ⟨machine.system.kernel.table.nextPid⟩

/-- The machine with another kernel. -/
def withKernel (machine : Machine) (kernel : Kernel Main) : Machine :=
  { machine with system := { machine.system with kernel := kernel } }

/-- The machine after a system call was counted. -/
def counted (machine : Machine) (number : Syscall.Number) : Machine :=
  { machine with
    system := { machine.system with stats := machine.system.stats.record number } }

/-- The machine after bytes were written to its console. -/
def written (machine : Machine) (bytes : List UInt8) : Machine :=
  { machine with
    system := { machine.system with console := (machine.system.console.write bytes).2 } }

/-- The machine after `pid` ended with a status; the last process that ends stops it. -/
def departed (machine : Machine) (pid : Pid) (status : Int32) : Machine :=
  { machine.withKernel (machine.system.kernel.departed pid (some status)) with
    halted :=
      if machine.system.kernel.table.running = 1 then some (machine.halted.getD .allExited)
      else machine.halted }

/-- The machine after a process was put at the end of those that are ready. -/
def queued (machine : Machine) (launch : Launch Main) : Machine :=
  { machine with ready := machine.ready ++ [launch] }

/-- The machine after a process was started, which runs at once under an eager schedule. -/
def started (runOther : Machine → Machine) (machine : Machine) : Machine :=
  if machine.schedule = .eager then runOther machine else machine

/-- The machine after `pid` collected its child `target`. -/
def collected (machine : Machine) (pid target : Pid) : Machine :=
  machine.withKernel (machine.system.kernel.collected pid target)

/-- The machine after `pid` entered the wait queue of `target`. -/
def awaiting (machine : Machine) (pid target : Pid) : Machine :=
  machine.withKernel (machine.system.kernel.awaiting pid target)

section Calls

variable (patience : Nat) (runOther : Machine → Machine) (machine : Machine) {pid target : Pid}

/-! ### Operations of the kernel -/

theorem onKernel_eq {α : Type} (operation : Kernel Main → α × Kernel Main × List Effect) :
    ∃ log, (engineWith patience runOther).onKernel operation machine =
      ((operation machine.system.kernel).1,
        { machine.withKernel (operation machine.system.kernel).2.1 with
          halted := (signals (operation machine.system.kernel).2.2).foldl haltedBy machine.halted
          log := log }) := by
  rcases foldl_carryOut (operation machine.system.kernel).2.2
    (machine.withKernel (operation machine.system.kernel).2.1) with ⟨log, carried⟩
  exact ⟨log, congrArg _ carried⟩

/-- An operation without signals makes no difference outside the kernel and the log. -/
theorem onKernel_of_calm {α : Type} (operation : Kernel Main → α × Kernel Main × List Effect)
    {answer : α} {kernel : Kernel Main} {effects : List Effect} (calm : signals effects = [])
    (operated : operation machine.system.kernel = (answer, kernel, effects)) :
    ∃ log, (engineWith patience runOther).onKernel operation machine =
      (answer, { machine.withKernel kernel with log := log }) := by
  rcases onKernel_eq patience runOther machine operation with ⟨log, left⟩
  rw [operated] at left
  simp only [calm, List.foldl_nil] at left
  exact ⟨log, left⟩

theorem report_eq {effects : List Effect} (calm : signals effects = []) :
    ∃ log, (engineWith patience runOther).report effects machine =
      { machine with log := log } := by
  rcases foldl_carryOut effects machine with ⟨log, carried⟩
  rw [calm] at carried
  exact ⟨log, carried⟩

theorem exit_eq (wellFormed : machine.system.kernel.table.WellFormed)
    (running : machine.system.kernel.table.stateOf? pid = some .running) (status : Int32) :
    ∃ log, (engineWith patience runOther).exit pid (some status) machine =
      { machine.departed pid status with log := log } := by
  rcases onKernel_eq patience runOther machine (fun kernel => ((), kernel.exit pid (some status)))
    with ⟨log, exited⟩
  refine ⟨log, ?_⟩
  rcases Kernel.exit_cases wellFormed pid (some status) with ⟨idle, _⟩ | ⟨_, left, told⟩
  · exact absurd running idle
  · rw [Engine.exit, exited]
    simp only [left, told, foldl_departureSignals]
    rfl

/-! ### Creating -/

section Spawn

variable {parent : Option Pid} {name : String} {arguments : List String} {kernel : Kernel Main}
  {effects : List Effect}

/-- A creation that fails leaves the machine as it was. -/
theorem spawn_of_error {cause : ExecError} (calm : signals effects = [])
    (prepared : machine.system.kernel.prepare parent name arguments =
      (.error cause, machine.system.kernel, effects)) :
    ∃ log, (engineWith patience runOther).spawn parent name arguments machine =
      (.error cause, { machine with log := log }) := by
  rcases onKernel_of_calm patience runOther machine
    (fun kernel => kernel.prepare parent name arguments) calm prepared with ⟨log, opened⟩
  rcases report_eq patience runOther { machine with log := log }
    (Kernel.signals_creationRecords parent name (.error cause)) with ⟨later, reported⟩
  refine ⟨later, ?_⟩
  rw [Engine.spawn, opened]
  exact congrArg _ reported

/-- A process that was created is started, and may run before its creator goes on. -/
theorem spawn_of_ok {launch : Launch Main} (live : machine.halted = none)
    (unlimited : machine.startsLeft = none) (calm : signals effects = [])
    (prepared : machine.system.kernel.prepare parent name arguments =
      (.ok launch, kernel, effects)) :
    ∃ log, ∀ next,
      started runOther { (machine.withKernel kernel).queued launch with log := log } = next →
        ∃ later, (engineWith patience runOther).spawn parent name arguments machine =
          (.ok launch.pid, { next with log := later }) := by
  rcases onKernel_of_calm patience runOther machine
    (fun kernel => kernel.prepare parent name arguments) calm prepared with ⟨log, opened⟩
  refine ⟨log, ?_⟩
  intro next ran
  have begun : (engineWith patience runOther).start launch
      { machine.withKernel kernel with log := log } = (none, next) := by
    rw [← ran]
    simp only [engineWith, isHalted, withKernel, live, admit?, unlimited]
    rfl
  have concluded : next.system.kernel.conclude launch.pid none =
      (.ok launch.pid, next.system.kernel, []) := rfl
  rcases onKernel_of_calm patience runOther next
    (fun kernel => kernel.conclude launch.pid none) signals_nil concluded with ⟨middle, closed⟩
  rcases report_eq patience runOther { next with log := middle }
    (Kernel.signals_creationRecords parent name (.ok launch.pid)) with ⟨later, reported⟩
  refine ⟨later, ?_⟩
  rw [Engine.spawn, opened]
  simp only [begun, closed]
  exact congrArg _ reported

end Spawn

/-! ### Collecting -/

theorem await_of_exited (looks : Nat) {termination : Termination}
    (wellFormed : machine.system.kernel.table.WellFormed)
    (child : machine.system.kernel.table.IsChild pid target)
    (ended : machine.system.kernel.table.stateOf? target = some (.exited termination)) :
    ∃ log, (engineWith patience runOther).await looks pid target machine =
      (some (.ok termination), { machine.collected pid target with log := log }) := by
  rcases Kernel.poll_cases wellFormed pid target with
    ⟨_, stranger, _⟩ | ⟨other, effects, _, state, calm, polled⟩ | ⟨_, _, unfinished, _⟩
  · exact absurd child stranger
  · have same : other = termination := by
      simpa [state] using ended
    subst other
    rcases onKernel_of_calm patience runOther machine (fun kernel => kernel.poll pid target) calm
      polled with ⟨log, looked⟩
    refine ⟨log, ?_⟩
    rw [Engine.await.eq_def, looked]
    rfl
  · simp [ended] at unfinished

/-- While a child runs, its parent lets others run and looks again. -/
theorem await_of_running (looks : Nat) (wellFormed : machine.system.kernel.table.WellFormed)
    (child : machine.system.kernel.table.IsChild pid target)
    (running : machine.system.kernel.table.stateOf? target = some .running) :
    ∃ log, ∀ next, runOther { machine.awaiting pid target with log := log } = next →
      next.halted = none →
        (engineWith patience runOther).await (looks + 1) pid target machine =
          (engineWith patience runOther).await looks pid target next := by
  rcases Kernel.poll_cases wellFormed pid target with
    ⟨_, stranger, _⟩ | ⟨_, _, _, ended, _, _⟩ | ⟨effects, _, _, calm, polled⟩
  · exact absurd child stranger
  · simp [running] at ended
  · have waits : machine.system.kernel.poll pid target =
        (none, machine.system.kernel.awaiting pid target, effects) := polled
    rcases onKernel_of_calm patience runOther machine (fun kernel => kernel.poll pid target) calm
      waits with ⟨log, looked⟩
    refine ⟨log, ?_⟩
    intro next ran live
    have suspended : (engineWith patience runOther).suspend pid
        { machine.awaiting pid target with log := log } = (true, next) := by
      simp only [engineWith, ran, isHalted, live]
      rfl
    rw [awaiting] at suspended
    rw [Engine.await.eq_def, looked]
    simp only [suspended]

/-! ### System calls -/

/-- A system call is counted and carried out; a machine that it stopped gives no reply. -/
theorem serve_eq (pid : Pid) (call : Syscall.Call) (live : machine.halted = none) :
    ∃ log, ∀ reply next,
      (engineWith patience runOther).perform pid call
          { machine.counted call.number with log := log } = (some reply, next) →
        ∃ later, serve (engineWith patience runOther) pid call machine =
          (if next.isHalted then none else some reply, { next with log := later }) := by
  refine ⟨.entered pid call :: machine.log, ?_⟩
  intro reply next performed
  have recorded : (engineWith patience runOther).setStats
      (((engineWith patience runOther).system machine).stats.record call.number) machine =
        machine.counted call.number := rfl
  have entered : (engineWith patience runOther).report [.log (.entered pid call)]
      (machine.counted call.number) =
        { machine.counted call.number with log := .entered pid call :: machine.log } := rfl
  refine ⟨.returned pid call.number reply.value :: next.log, ?_⟩
  rw [serve, isHalted, live, Engine.handle, Engine.trace, recorded, entered, performed]
  rfl

theorem serve_of_live (pid : Pid) (call : Syscall.Call) (live : machine.halted = none) :
    ∃ log, ∀ reply next,
      (engineWith patience runOther).perform pid call
          { machine.counted call.number with log := log } = (some reply, next) →
        next.halted = none →
          ∃ later, serve (engineWith patience runOther) pid call machine =
            (some reply, { next with log := later }) := by
  rcases serve_eq patience runOther machine pid call live with ⟨log, serves⟩
  refine ⟨log, ?_⟩
  intro reply next performed alive
  rcases serves reply next performed with ⟨later, served⟩
  have going : next.isHalted = false := congrArg Option.isSome alive
  rw [going] at served
  exact ⟨later, served⟩

theorem serve_write (pid : Pid) (bytes : List UInt8) (live : machine.halted = none) :
    ∃ log, serve (engineWith patience runOther) pid (.write outputDescriptor bytes) machine =
      (some (.ofValue (Syscall.Reply.countValue bytes.length)),
        { (machine.counted .write).written bytes with log := log }) := by
  rcases serve_of_live patience runOther machine pid (.write outputDescriptor bytes) live with
    ⟨log, serves⟩
  rcases serves _ _ rfl live with ⟨later, served⟩
  exact ⟨later, served⟩

theorem serve_exit (status : Int32) (live : machine.halted = none)
    (wellFormed : machine.system.kernel.table.WellFormed)
    (running : machine.system.kernel.table.stateOf? pid = some .running) :
    ∃ log, (serve (engineWith patience runOther) pid (.exit status) machine).2 =
      { (machine.counted .exit).departed pid status with log := log } := by
  rcases serve_eq patience runOther machine pid (.exit status) live with ⟨log, serves⟩
  rcases exit_eq patience runOther { machine.counted .exit with log := log }
    wellFormed running status with ⟨middle, exited⟩
  rcases serves (.ofValue 0) { (machine.counted .exit).departed pid status with log := middle }
    (congrArg (Prod.mk _) exited) with ⟨later, served⟩
  refine ⟨later, ?_⟩
  rw [served]

section Exec

variable {name : String} {arguments : List String} {kernel : Kernel Main} {effects : List Effect}

theorem serve_exec_of_error {cause : ExecError} (live : machine.halted = none)
    (calm : signals effects = [])
    (prepared : machine.system.kernel.prepare (some pid) name arguments =
      (.error cause, machine.system.kernel, effects)) :
    ∃ log, serve (engineWith patience runOther) pid (.exec name arguments) machine =
      (some .failure, { machine.counted .exec with log := log }) := by
  rcases serve_of_live patience runOther machine pid (.exec name arguments) live with ⟨log, serves⟩
  rcases spawn_of_error patience runOther { machine.counted .exec with log := log }
    calm prepared with ⟨middle, refused⟩
  have performed : (engineWith patience runOther).perform pid (.exec name arguments)
      { machine.counted .exec with log := log } =
        (some .failure, { machine.counted .exec with log := middle }) := by
    rw [Engine.perform, refused]
    rfl
  rcases serves _ _ performed live with ⟨later, served⟩
  exact ⟨later, served⟩

/-- A creator goes on with the pid of its child, unless the child has stopped the machine. -/
theorem serve_exec_of_ok {launch : Launch Main} (live : machine.halted = none)
    (unlimited : machine.startsLeft = none) (calm : signals effects = [])
    (prepared : machine.system.kernel.prepare (some pid) name arguments =
      (.ok launch, kernel, effects)) :
    ∃ log, ∀ next,
      started runOther
          { ((machine.counted .exec).withKernel kernel).queued launch with log := log } = next →
        next.halted = none →
          ∃ later, serve (engineWith patience runOther) pid (.exec name arguments) machine =
            (some (.ofExec (.ok launch.pid)), { next with log := later }) := by
  rcases serve_of_live patience runOther machine pid (.exec name arguments) live with ⟨log, serves⟩
  rcases spawn_of_ok patience runOther { machine.counted .exec with log := log }
    live unlimited calm prepared with ⟨middle, creates⟩
  refine ⟨middle, ?_⟩
  intro next ran alive
  rcases creates next ran with ⟨after, created⟩
  have performed : (engineWith patience runOther).perform pid (.exec name arguments)
      { machine.counted .exec with log := log } =
        (some (.ofExec (.ok launch.pid)), { next with log := after }) := by
    rw [Engine.perform, created]
  rcases serves _ _ performed alive with ⟨later, served⟩
  exact ⟨later, served⟩

end Exec

section Join

variable {number : Int32}

theorem serve_join_of_exited {termination : Termination}
    (named : Pid.ofInt32? number = some target) (live : machine.halted = none)
    (wellFormed : machine.system.kernel.table.WellFormed)
    (child : machine.system.kernel.table.IsChild pid target)
    (ended : machine.system.kernel.table.stateOf? target = some (.exited termination)) :
    ∃ log, serve (engineWith patience runOther) pid (.join number) machine =
      (some (.ofJoin (.ok termination)),
        { (machine.counted .join).collected pid target with log := log }) := by
  rcases serve_of_live patience runOther machine pid (.join number) live with ⟨log, serves⟩
  rcases await_of_exited patience runOther { machine.counted .join with log := log }
    patience wellFormed child ended with ⟨middle, awaited⟩
  have performed : (engineWith patience runOther).perform pid (.join number)
      { machine.counted .join with log := log } =
        (some (.ofJoin (.ok termination)),
          { (machine.counted .join).collected pid target with log := middle }) := by
    have joined : (engineWith patience runOther).join pid target
        { machine.counted .join with log := log } = _ := awaited
    simp only [Engine.perform, named, joined]
    rfl
  rcases serves _ _ performed live with ⟨later, served⟩
  exact ⟨later, served⟩

/-- A child that still runs is collected if it ends while its parent waits for the first time. -/
theorem serve_join_of_running (termination : Termination)
    (named : Pid.ofInt32? number = some target) (live : machine.halted = none)
    (wellFormed : machine.system.kernel.table.WellFormed)
    (child : machine.system.kernel.table.IsChild pid target)
    (running : machine.system.kernel.table.stateOf? target = some .running) :
    ∃ log, ∀ next,
      runOther { (machine.counted .join).awaiting pid target with log := log } = next →
        next.halted = none → next.system.kernel.table.WellFormed →
          next.system.kernel.table.IsChild pid target →
            next.system.kernel.table.stateOf? target = some (.exited termination) →
              ∃ later, serve (engineWith (patience + 1) runOther) pid (.join number) machine =
                (some (.ofJoin (.ok termination)),
                  { next.collected pid target with log := later }) := by
  rcases serve_of_live (patience + 1) runOther machine pid (.join number) live with ⟨log, serves⟩
  rcases await_of_running (patience + 1) runOther
    { machine.counted .join with log := log } patience wellFormed child running with
    ⟨middle, awaits⟩
  refine ⟨middle, ?_⟩
  intro next ran alive sound heir ended
  rcases await_of_exited (patience + 1) runOther next patience sound heir ended with
    ⟨after, awaited⟩
  have performed : (engineWith (patience + 1) runOther).perform pid (.join number)
      { machine.counted .join with log := log } =
        (some (.ofJoin (.ok termination)), { next.collected pid target with log := after }) := by
    have joined : (engineWith (patience + 1) runOther).join pid target
        { machine.counted .join with log := log } = _ := (awaits next ran alive).trans awaited
    simp only [Engine.perform, named, joined]
    rfl
  rcases serves _ _ performed alive with ⟨later, served⟩
  exact ⟨later, served⟩

end Join

end Calls

/-! ### Runs -/

theorem runUntilHalted_of_isHalted (engine : Engine Main Machine) (processes : Nat)
    {machine : Machine} (halted : machine.isHalted = true) :
    runUntilHalted engine processes machine = machine := by
  cases processes with
  | zero => rfl
  | succ processes => rw [runUntilHalted, if_pos halted]

theorem run_of_spawn {machine next : Machine} {name : String} {arguments : List String} {root : Pid}
    (created : (engine machine.bound machine.bound).spawn none name arguments machine =
      (.ok root, next)) :
    machine.run name arguments =
      (.ok root, runUntilHalted (engine machine.bound machine.bound) next.bound next) := by
  rw [Machine.run, created]

/-- A process that stops the machine is the last one to run. -/
theorem runUntilHalted_of_runNext {engine : Engine Main Machine} {machine next : Machine}
    (processes : Nat) (ran : runNext engine machine = next) (halted : next.isHalted = true)
    (live : machine.halted = none) : runUntilHalted engine (processes + 1) machine = next := by
  rw [runUntilHalted, isHalted, live, ran]
  exact runUntilHalted_of_isHalted engine processes halted

end Machine

end Lifecycle
