import Lifecycle.Proofs.Activity
import Lifecycle.Proofs.MachineCalls

/-!
# Sealed machines

Nothing changes a machine after it was powered off. When the machine stops, it may have creations and
waits that are not finished, one inside the other, and each of them still goes through the kernel on
its way back. This file compares a machine with one that is sealed when it stops: from then on, no
effect is carried out on it and no part of its system is stored. The two machines run alike. They
answer the same, and in the end they differ in their logs only.

The comparison also carries what the operations of the kernel keep on a machine that goes on. As no
operation that has an effect is made after the stop, it holds of the machine that has stopped.
-/

namespace Lifecycle

open Activity (Step)

namespace Machine

variable {holds : Kernel Main → Option HaltReason → Prop} {machine other : Machine}

/-! ### Sealing -/

/-- The engine, except that it leaves a machine that has stopped as it is. -/
def sealOff (engine : Engine Main Machine) : Engine Main Machine :=
  { engine with
    settle := fun system effects machine =>
      if machine.isHalted then machine else engine.settle system effects machine }

/-- The engine under which runs nest at most `depth` deep, on machines that are sealed. -/
def sealedEngine (patience : Nat) : (depth : Nat) → Engine Main Machine
  | 0 => sealOff (engineWith patience id)
  | depth + 1 =>
    sealOff (engineWith patience fun machine => runNext (sealedEngine patience depth) machine)

/-- Boots the image `name` and runs the machine, which is sealed when it stops. -/
def runSealed (machine : Machine) (name : String) (arguments : List String) :
    Except ExecError Pid × Machine :=
  let engine := sealedEngine machine.bound machine.bound
  match engine.spawn none name arguments machine with
  | (.error cause, machine) => (.error cause, machine)
  | (.ok root, machine) => (.ok root, runUntilHalted engine machine.bound machine)

theorem settle_sealOff_of_isHalted {engine : Engine Main Machine} (halted : machine.isHalted = true)
    (system : System Main) (effects : List Effect) :
    (sealOff engine).settle system effects machine = machine := by
  simp [sealOff, halted]

/-! ### Invariants of kernels that go on -/

/-- What every operation keeps that the kernel makes while no call is pending. -/
structure Invariant (holds : Kernel Main → Option HaltReason → Prop) : Prop where
  wellFormed : ∀ {kernel halted}, holds kernel halted → kernel.table.WellFormed
  step : ∀ {kernel next happening effects}, holds kernel none →
    Step ⟨kernel, []⟩ happening effects next → holds next.kernel (effects.foldl haltedBy none)

namespace Invariant

variable {kernel : Kernel Main} (invariant : Invariant holds) (before : holds kernel none)

include invariant before

theorem prepare (parent : Option Pid) (name : String) (arguments : List String) :
    holds (kernel.prepare parent name arguments).2.1
      ((signals (kernel.prepare parent name arguments).2.2).foldl haltedBy none) := by
  have step := (@Activity.isStep_spawn Main ⟨kernel, []⟩ (invariant.wellFormed before) parent name
    arguments).2
  rcases prepared : kernel.prepare parent name arguments with ⟨answer, next, effects⟩
  cases answer with
  | error cause =>
      simp only [Activity.spawn, prepared] at step
      exact invariant.step before step
  | ok launch =>
      simp only [Activity.spawn, prepared] at step
      exact invariant.step before step

theorem poll (caller target : Pid) :
    holds (kernel.poll caller target).2.1
      ((signals (kernel.poll caller target).2.2).foldl haltedBy none) := by
  have step := (@Activity.isStep_look Main ⟨kernel, []⟩ (invariant.wellFormed before) caller target
    [] (Or.inl rfl)).2
  rcases polled : kernel.poll caller target with ⟨answer, next, effects⟩
  cases answer with
  | none =>
      simp only [Activity.look, polled] at step
      exact invariant.step before step
  | some result =>
      simp only [Activity.look, polled] at step
      exact invariant.step before step

theorem exit (caller : Pid) (status : Option Int32) :
    holds (kernel.exit caller status).1
      ((signals (kernel.exit caller status).2).foldl haltedBy none) := by
  have fits : (Activity.mk kernel []).step (.exit caller status) = some _ := rfl
  exact invariant.step before (Activity.isStep_step (invariant.wellFormed before) fits).2

theorem halt (caller : Pid) :
    holds (kernel.halt caller).2.1 ((signals (kernel.halt caller).2.2).foldl haltedBy none) := by
  have fits : (Activity.mk kernel []).step (.halt caller) = some _ := rfl
  exact invariant.step before (Activity.isStep_step (invariant.wellFormed before) fits).2

end Invariant

/-! ### Twins -/

/-- The machines differ in their logs only, and have a property. -/
structure Twins (holds : Kernel Main → Option HaltReason → Prop) (machine other : Machine) :
    Prop where
  other_eq : other = { machine with log := other.log }
  holds : holds machine.system.kernel machine.halted

/-- The answers are the same, and the machines are twins. -/
structure Alike {α : Type} (holds : Kernel Main → Option HaltReason → Prop)
    (first second : α × Machine) : Prop where
  answer : second.1 = first.1
  twins : Twins holds first.2 second.2

theorem Alike.exists_eq {α : Type} {first second : α × Machine} (alike : Alike holds first second) :
    ∃ answer machine other, first = (answer, machine) ∧ second = (answer, other) ∧
      Twins holds machine other := by
  rcases first with ⟨answer, machine⟩
  rcases second with ⟨sameAnswer, other⟩
  rcases alike with ⟨rfl, twins⟩
  exact ⟨sameAnswer, machine, other, rfl, rfl, twins⟩

theorem halted_eq_none (live : ¬machine.isHalted = true) : machine.halted = none := by
  simpa [isHalted] using live

theorem isHalted_eq_false (live : machine.halted = none) : machine.isHalted = false := by
  simp [isHalted, live]

namespace Twins

variable (twins : Twins holds machine other)

include twins

theorem system_eq : other.system = machine.system := by
  rw [twins.other_eq]

theorem halted_eq : other.halted = machine.halted := by
  rw [twins.other_eq]

theorem isHalted_eq : other.isHalted = machine.isHalted := by
  rw [isHalted, isHalted, twins.halted_eq]

theorem schedule_eq : other.schedule = machine.schedule := by
  rw [twins.other_eq]

theorem takeNext? :
    machine.takeNext? = none ∧ other.takeNext? = none ∨
      ∃ launch next otherNext, machine.takeNext? = some (launch, next) ∧
        other.takeNext? = some (launch, otherNext) ∧ Twins holds next otherNext := by
  rw [twins.other_eq]
  unfold Machine.takeNext?
  cases machine.schedule with
  | lifo =>
      cases last : machine.ready.getLast? with
      | none => simp
      | some launch => exact Or.inr ⟨launch, _, _, rfl, rfl, rfl, twins.holds⟩
  | _ =>
      cases machine.ready with
      | nil => simp
      | cons launch ready => exact Or.inr ⟨launch, _, _, rfl, rfl, rfl, twins.holds⟩

theorem admit? (launch : Launch Main) :
    machine.admit? launch = none ∧ other.admit? launch = none ∨
      ∃ next otherNext, machine.admit? launch = some next ∧
        other.admit? launch = some otherNext ∧ Twins holds next otherNext := by
  rw [twins.other_eq]
  unfold Machine.admit?
  cases machine.startsLeft with
  | none => exact Or.inr ⟨_, _, rfl, rfl, rfl, twins.holds⟩
  | some left =>
      cases left with
      | zero => simp
      | succ left => exact Or.inr ⟨_, _, rfl, rfl, rfl, twins.holds⟩

theorem alike {α : Type} (answer : α) : Alike holds (answer, machine) (answer, other) :=
  ⟨rfl, twins⟩

end Twins

/--
The engines keep twins alike. Effects are compared before the stop, and records of the log at any
time; a start is refused before anything was done.
-/
structure Paired (holds : Kernel Main → Option HaltReason → Prop)
    (engine twin : Engine Main Machine) : Prop where
  system_eq : ∀ machine, engine.system machine = machine.system
  twin_system_eq : ∀ machine, twin.system machine = machine.system
  patience_eq : twin.patience = engine.patience
  settle_eq : ∀ {machine} system effects, machine.halted = none →
    (engine.settle system effects machine).system = system ∧
      (engine.settle system effects machine).halted = (signals effects).foldl haltedBy none
  settle : ∀ {machine other system effects}, Twins holds machine other → machine.halted = none →
    holds system.kernel ((signals effects).foldl haltedBy none) →
      Twins holds (engine.settle system effects machine) (twin.settle system effects other)
  record : ∀ {machine other effects}, Twins holds machine other → signals effects = [] →
    Twins holds (engine.settle machine.system effects machine)
      (twin.settle other.system effects other)
  start : ∀ {machine other} launch, Twins holds machine other → machine.halted = none →
    Alike holds (engine.start launch machine) (twin.start launch other)
  start_refused : ∀ {machine launch cause}, (engine.start launch machine).1 = some cause →
    (engine.start launch machine).2 = machine
  suspend : ∀ {machine other} pid, Twins holds machine other →
    Alike holds (engine.suspend pid machine) (twin.suspend pid other)
  suspend_live : ∀ {machine pid}, (engine.suspend pid machine).1 = true →
    (engine.suspend pid machine).2.halted = none

/-- What a process comes to after a call: it goes on with the reply, or it does not come back. -/
def goOn (engine : Engine Main Machine) (pid : Pid) (next : Syscall.Reply → Program Int32) :
    Option Syscall.Reply × Machine → Ending × Machine
  | (none, machine) => (.stopped, machine)
  | (some reply, machine) => follow engine pid (next reply) machine

namespace Paired

variable {engine twin : Engine Main Machine} (paired : Paired holds engine twin)

include paired

/-! ### Calls of the kernel -/

theorem report (twins : Twins holds machine other) (effects : List Effect)
    (calm : signals effects = []) :
    Twins holds (engine.report effects machine) (twin.report effects other) := by
  simp only [Engine.report, paired.system_eq, paired.twin_system_eq]
  exact paired.record twins calm

theorem onKernel {α : Type} (twins : Twins holds machine other) (live : machine.halted = none)
    (operation : Kernel Main → α × Kernel Main × List Effect)
    (keeps : holds (operation machine.system.kernel).2.1
      ((signals (operation machine.system.kernel).2.2).foldl haltedBy none)) :
    Alike holds (engine.onKernel operation machine) (twin.onKernel operation other) := by
  have same := twins.system_eq
  simp only [Engine.onKernel, paired.system_eq, paired.twin_system_eq, same]
  exact ⟨rfl, paired.settle twins live keeps⟩

theorem setStats (twins : Twins holds machine other) (live : machine.halted = none)
    (stats : Syscall.Stats) :
    Twins holds (engine.setStats stats machine) (twin.setStats stats other) := by
  have same := twins.system_eq
  have kept := twins.holds
  rw [live] at kept
  simp only [Engine.setStats, paired.system_eq, paired.twin_system_eq, same]
  exact paired.settle twins live kept

theorem setConsole (twins : Twins holds machine other) (live : machine.halted = none)
    (console : Console) :
    Twins holds (engine.setConsole console machine) (twin.setConsole console other) := by
  have same := twins.system_eq
  have kept := twins.holds
  rw [live] at kept
  simp only [Engine.setConsole, paired.system_eq, paired.twin_system_eq, same]
  exact paired.settle twins live kept

theorem onKernel_eq {α : Type} (live : machine.halted = none)
    (operation : Kernel Main → α × Kernel Main × List Effect) :
    (engine.onKernel operation machine).1 = (operation machine.system.kernel).1 ∧
      (engine.onKernel operation machine).2.system.kernel = (operation machine.system.kernel).2.1 ∧
        (engine.onKernel operation machine).2.halted =
          (signals (operation machine.system.kernel).2.2).foldl haltedBy none := by
  simp only [Engine.onKernel, paired.system_eq, true_and]
  rcases paired.settle_eq { machine.system with kernel := (operation machine.system.kernel).2.1 }
    (operation machine.system.kernel).2.2 live with ⟨stored, told⟩
  exact ⟨congrArg System.kernel stored, told⟩

/-- A creation that was not refused returns, also on a machine that has stopped meanwhile. -/
theorem conclude_none (twins : Twins holds machine other) (pid : Pid) :
    Alike holds (engine.onKernel (fun kernel => kernel.conclude pid none) machine)
      (twin.onKernel (fun kernel => kernel.conclude pid none) other) := by
  simp only [Engine.onKernel, paired.system_eq, paired.twin_system_eq, Kernel.conclude]
  exact ⟨rfl, paired.record twins signals_nil⟩

theorem spawn (invariant : Invariant holds) (twins : Twins holds machine other)
    (live : machine.halted = none) (parent : Option Pid) (name : String)
    (arguments : List String) :
    Alike holds (engine.spawn parent name arguments machine)
      (twin.spawn parent name arguments other) := by
  have before := twins.holds
  rw [live] at before
  have wellFormed := invariant.wellFormed before
  have keeps := invariant.prepare before parent name arguments
  have left := paired.onKernel_eq live fun kernel => kernel.prepare parent name arguments
  have opens := paired.onKernel twins live (fun kernel => kernel.prepare parent name arguments)
    keeps
  rcases opens.exists_eq with ⟨result, opened, twinOpened, begun, twinBegun, opens⟩
  rcases prepared : machine.system.kernel.prepare parent name arguments with
    ⟨answer, next, effects⟩
  simp only [begun, prepared] at left
  rcases left with ⟨rfl, kernel, halted⟩
  simp only [Engine.spawn, begun, twinBegun]
  cases result with
  | error cause =>
      exact ⟨rfl, paired.report opens _ (Kernel.signals_creationRecords parent name _)⟩
  | ok launch =>
      rcases Kernel.prepare_eq_ok wellFormed prepared with ⟨calm, _, _, undone⟩
      rw [calm] at halted
      have refuses := @paired.start_refused opened launch
      rcases (paired.start launch opens halted).exists_eq with
        ⟨refusal, inside, twinInside, started, twinStarted, starts⟩
      have ends : Alike holds
          (engine.onKernel (fun kernel => kernel.conclude launch.pid refusal) inside)
          (twin.onKernel (fun kernel => kernel.conclude launch.pid refusal) twinInside) := by
        cases refusal with
        | none => exact paired.conclude_none starts launch.pid
        | some cause =>
            -- Nothing was done since the process was prepared, so it is taken back.
            have same : inside = opened := by
              simpa only [started, forall_const] using @refuses cause
            subst same
            apply paired.onKernel starts halted
            simp only [Kernel.conclude, Kernel.signals_abandon, kernel, undone]
            exact before
      rcases ends.exists_eq with ⟨answer, closed, twinClosed, concluded, twinConcluded, ends⟩
      simp only [started, twinStarted, concluded, twinConcluded]
      exact ⟨rfl, paired.report ends _ (Kernel.signals_creationRecords parent name answer)⟩

theorem await (invariant : Invariant holds) (twins : Twins holds machine other)
    (live : machine.halted = none) (patience : Nat) (caller target : Pid) :
    Alike holds (engine.await patience caller target machine)
      (twin.await patience caller target other) := by
  induction patience using Nat.strongRecOn generalizing machine other with
  | ind patience ih =>
      have before := twins.holds
      rw [live] at before
      have keeps := invariant.poll before caller target
      have looks := paired.onKernel twins live (fun kernel => kernel.poll caller target) keeps
      rcases looks.exists_eq with ⟨result, looked, twinLooked, polled, twinPolled, looks⟩
      unfold Engine.await
      simp only [polled, twinPolled]
      cases result with
      | some result => exact looks.alike _
      | none =>
          have resumes := @paired.suspend_live looked caller
          rcases (paired.suspend caller looks).exists_eq with
            ⟨returns, resumed, twinResumed, suspended, twinSuspended, suspends⟩
          simp only [suspended] at resumes
          simp only [suspended, twinSuspended]
          cases returns with
          | false => exact suspends.alike _
          | true =>
              cases patience with
              | zero => exact suspends.alike _
              | succ patience =>
                  exact ih patience (Nat.lt_succ_self patience) suspends (resumes rfl)

theorem join (invariant : Invariant holds) (twins : Twins holds machine other)
    (live : machine.halted = none) (caller target : Pid) :
    Alike holds (engine.join caller target machine) (twin.join caller target other) := by
  unfold Engine.join
  rw [paired.patience_eq]
  exact paired.await invariant twins live engine.patience caller target

theorem exit (invariant : Invariant holds) (twins : Twins holds machine other)
    (live : machine.halted = none) (caller : Pid) (status : Option Int32) :
    Twins holds (engine.exit caller status machine) (twin.exit caller status other) := by
  have before := twins.holds
  rw [live] at before
  exact (paired.onKernel twins live (fun kernel => ((), kernel.exit caller status))
    (invariant.exit before caller status)).twins

theorem halt (invariant : Invariant holds) (twins : Twins holds machine other)
    (live : machine.halted = none) (caller : Pid) :
    Alike holds (engine.halt caller machine) (twin.halt caller other) := by
  have before := twins.holds
  rw [live] at before
  exact paired.onKernel twins live (fun kernel => kernel.halt caller)
    (invariant.halt before caller)

theorem abort (invariant : Invariant holds) (twins : Twins holds machine other)
    (live : machine.halted = none) (caller : Pid) :
    Twins holds (engine.abort caller machine) (twin.abort caller other) := by
  have reported := paired.report twins [.log (.aborted caller)] rfl
  have still := paired.settle_eq machine.system [.log (.aborted caller)] live
  have halted : (engine.report [.log (.aborted caller)] machine).halted = none := by
    simp only [Engine.report, paired.system_eq]
    exact still.2
  exact paired.exit invariant reported halted caller none

/-! ### System calls -/

theorem perform (invariant : Invariant holds) (twins : Twins holds machine other)
    (live : machine.halted = none) (caller : Pid) (call : Syscall.Call) :
    Alike holds (engine.perform caller call machine) (twin.perform caller call other) := by
  cases call with
  | halt =>
      rcases (paired.halt invariant twins live caller).exists_eq with
        ⟨result, left, twinLeft, halted, twinHalted, alike⟩
      simp only [Engine.perform, halted, twinHalted]
      exact alike.alike _
  | exit status => exact (paired.exit invariant twins live caller (some status)).alike _
  | exec name arguments =>
      rcases (paired.spawn invariant twins live (some caller) name arguments).exists_eq with
        ⟨result, left, twinLeft, created, twinCreated, alike⟩
      simp only [Engine.perform, created, twinCreated]
      exact alike.alike _
  | join pid =>
      simp only [Engine.perform]
      split
      · exact twins.alike _
      · rename_i target _
        rcases (paired.join invariant twins live caller target).exists_eq with
          ⟨result, left, twinLeft, joined, twinJoined, alike⟩
        simp only [joined, twinJoined]
        exact alike.alike _
  | read descriptor buffer =>
      simp only [Engine.perform, Engine.read, paired.system_eq, paired.twin_system_eq,
        twins.system_eq]
      split
      · exact (paired.setConsole twins live _).alike _
      · exact twins.alike _
  | write descriptor bytes =>
      simp only [Engine.perform, Engine.write, paired.system_eq, paired.twin_system_eq,
        twins.system_eq]
      split
      · exact (paired.setConsole twins live _).alike _
      · exact twins.alike _
  | unsupported number => exact (paired.report twins _ rfl).alike _

theorem trace (invariant : Invariant holds) (twins : Twins holds machine other)
    (live : machine.halted = none) (caller : Pid) (call : Syscall.Call) :
    Alike holds (engine.trace caller call machine) (twin.trace caller call other) := by
  have entered := paired.report twins [.log (.entered caller call)] rfl
  have still := paired.settle_eq machine.system [.log (.entered caller call)] live
  have halted : (engine.report [.log (.entered caller call)] machine).halted = none := by
    simp only [Engine.report, paired.system_eq]
    exact still.2
  rcases (paired.perform invariant entered halted caller call).exists_eq with
    ⟨reply, left, twinLeft, performed, twinPerformed, alike⟩
  simp only [Engine.trace, performed, twinPerformed]
  cases reply with
  | none => exact alike.alike _
  | some reply => exact (paired.report alike _ rfl).alike _

theorem handle (invariant : Invariant holds) (twins : Twins holds machine other)
    (live : machine.halted = none) (caller : Pid) (call : Syscall.Call) :
    Alike holds (engine.handle caller call machine) (twin.handle caller call other) := by
  have counted := paired.setStats twins live (machine.system.stats.record call.number)
  have still := paired.settle_eq
    { machine.system with stats := machine.system.stats.record call.number } [] live
  simp only [Engine.handle, paired.system_eq, paired.twin_system_eq, twins.system_eq]
  apply paired.trace invariant counted
  simp only [Engine.setStats, paired.system_eq]
  exact still.2

/-! ### Programs -/

theorem serve (invariant : Invariant holds) (twins : Twins holds machine other) (pid : Pid)
    (call : Syscall.Call) :
    Alike holds (serve engine pid call machine) (serve twin pid call other) := by
  unfold Machine.serve
  rw [twins.isHalted_eq]
  split
  · exact twins.alike _
  · rename_i live
    rcases (paired.handle invariant twins (halted_eq_none live) pid call).exists_eq with
      ⟨reply, left, twinLeft, handled, twinHandled, alike⟩
    simp only [handled, twinHandled, alike.isHalted_eq]
    exact alike.alike _

/-- A call of a program, after which the program goes on or has come to its end. -/
theorem follow_call (invariant : Invariant holds) (twins : Twins holds machine other) {pid : Pid}
    {program : Program Int32} (call : Syscall.Call) (next : Syscall.Reply → Program Int32)
    (calls : ∀ (engine : Engine Main Machine) machine, follow engine pid program machine =
      goOn engine pid next (Machine.serve engine pid call machine))
    (goesOn : ∀ reply {machine other}, Twins holds machine other →
      Alike holds (follow engine pid (next reply) machine)
        (follow twin pid (next reply) other)) :
    Alike holds (follow engine pid program machine) (follow twin pid program other) := by
  rcases (paired.serve invariant twins pid call).exists_eq with
    ⟨reply, left, twinLeft, served, twinServed, alike⟩
  rw [calls, calls, served, twinServed]
  cases reply with
  | none => exact alike.alike _
  | some reply => exact goesOn reply alike

theorem follow (invariant : Invariant holds) (twins : Twins holds machine other) (pid : Pid)
    (program : Program Int32) :
    Alike holds (follow engine pid program machine) (follow twin pid program other) := by
  induction program generalizing machine other with
  | done status => exact twins.alike _
  | crash => exact twins.alike _
  | exit status => exact (paired.serve invariant twins pid (.exit status)).twins.alike _
  | halt next ih =>
      apply paired.follow_call invariant twins .halt
        (fun reply => next reply.value)
      · intro engine machine
        rw [Machine.follow]
        rfl
      · intro reply machine other alike
        exact ih reply.value alike
  | exec name arguments next ih =>
      apply paired.follow_call invariant twins (.exec name arguments)
        (fun reply => next reply.value)
      · intro engine machine
        rw [Machine.follow]
        rfl
      · intro reply machine other alike
        exact ih reply.value alike
  | join target next ih =>
      apply paired.follow_call invariant twins (.join target)
        (fun reply => next reply.value reply.status)
      · intro engine machine
        rw [Machine.follow]
        rfl
      · intro reply machine other alike
        exact ih reply.value reply.status alike
  | read descriptor buffer next ih =>
      apply paired.follow_call invariant twins (.read descriptor buffer)
        (fun reply => next reply.value reply.buffer)
      · intro engine machine
        rw [Machine.follow]
        rfl
      · intro reply machine other alike
        exact ih reply.value reply.buffer alike
  | write descriptor bytes next ih =>
      apply paired.follow_call invariant twins (.write descriptor bytes)
        (fun reply => next reply.value)
      · intro engine machine
        rw [Machine.follow]
        rfl
      · intro reply machine other alike
        exact ih reply.value alike

theorem conclude (invariant : Invariant holds) (twins : Twins holds machine other) (pid : Pid)
    (ending : Ending) :
    Twins holds (conclude engine pid ending machine) (conclude twin pid ending other) := by
  unfold Machine.conclude
  rw [twins.isHalted_eq]
  split
  · exact twins
  · rename_i live
    have live := halted_eq_none live
    cases ending with
    | returned status => exact paired.exit invariant twins live pid (some status)
    | crashed => exact paired.abort invariant twins live pid
    | stopped => exact twins

theorem runNext (invariant : Invariant holds) (twins : Twins holds machine other) :
    Twins holds (runNext engine machine) (runNext twin other) := by
  unfold Machine.runNext
  rcases twins.takeNext? with ⟨none, noOther⟩ | ⟨launch, taken, otherTaken, next, otherNext, alike⟩
  · rw [none, noOther]
    exact twins
  · rw [next, otherNext]
    rcases (paired.follow invariant alike launch.pid (launch.entry launch.arguments)).exists_eq with
      ⟨ending, left, otherLeft, followed, otherFollowed, alike⟩
    simp only [followed, otherFollowed]
    exact paired.conclude invariant alike launch.pid ending

theorem runUntilHalted (invariant : Invariant holds) (twins : Twins holds machine other)
    (processes : Nat) :
    Twins holds (runUntilHalted engine processes machine)
      (runUntilHalted twin processes other) := by
  induction processes generalizing machine other with
  | zero => exact twins
  | succ processes ih =>
      simp only [Machine.runUntilHalted, twins.isHalted_eq]
      split
      · exact twins
      · exact ih (paired.runNext invariant twins)

end Paired

/-! ### Engines and runs -/

theorem Twins.settle (twins : Twins holds machine other) (live : machine.halted = none)
    {system : System Main} {effects : List Effect}
    (keeps : holds system.kernel ((signals effects).foldl haltedBy none)) :
    Twins holds (effects.foldl carryOut { machine with system := system })
      (effects.foldl carryOut { other with system := system }) := by
  rcases foldl_carryOut effects { machine with system := system } with ⟨log, carried⟩
  rcases foldl_carryOut effects { other with system := system } with ⟨otherLog, otherCarried⟩
  rw [carried, otherCarried]
  refine ⟨?_, ?_⟩
  · rw [twins.other_eq]
  · simp only [live]
    exact keeps

/-- The machines that are left when other processes run are twins, too. -/
theorem paired_sealOff (patience : Nat) {runOther otherRuns : Machine → Machine}
    (runs : ∀ {machine other}, Twins holds machine other →
      Twins holds (runOther machine) (otherRuns other)) :
    Paired holds (engineWith patience runOther) (sealOff (engineWith patience otherRuns)) where
  system_eq machine := rfl
  twin_system_eq machine := rfl
  patience_eq := rfl
  settle_eq := by
    intro machine system effects live
    rcases foldl_carryOut effects { machine with system := system } with ⟨log, carried⟩
    refine ⟨congrArg Machine.system carried, (congrArg Machine.halted carried).trans ?_⟩
    simp only [live]
  settle := by
    intro machine other system effects twins live keeps
    simp only [sealOff, twins.isHalted_eq, isHalted_eq_false live]
    exact twins.settle live keeps
  record := by
    intro machine other effects twins calm
    by_cases halted : machine.isHalted = true
    · -- The sealed machine stays as it is, and of the other one only the log changes.
      rw [settle_sealOff_of_isHalted (twins.isHalted_eq.trans halted)]
      rcases foldl_carryOut effects machine with ⟨log, carried⟩
      simp only [engineWith, carried, calm]
      exact ⟨twins.other_eq, twins.holds⟩
    · have live := halted_eq_none halted
      simp only [sealOff, twins.isHalted_eq, isHalted_eq_false live, twins.system_eq]
      apply twins.settle live
      rw [calm, ← live]
      exact twins.holds
  start := by
    intro machine other launch twins live
    simp only [engineWith, sealOff, twins.isHalted_eq, isHalted_eq_false live]
    rcases twins.admit? launch with
      ⟨none, noOther⟩ | ⟨admitted, otherAdmitted, next, otherNext, alike⟩
    · simp only [none, noOther]
      exact twins.alike _
    · simp only [next, otherNext, alike.schedule_eq]
      by_cases eager : admitted.schedule = .eager
      · simp only [eager, if_true]
        exact (runs alike).alike _
      · simp only [eager, if_false]
        exact alike.alike _
  start_refused := by
    intro machine launch cause refused
    simp only [engineWith] at refused ⊢
    split at refused
    · rename_i halted
      simp [halted]
    · rename_i live
      split at refused
      · rename_i unadmitted
        simp [live]
      · cases refused
  suspend := by
    intro machine other pid twins
    have resumes := runs twins
    simp only [engineWith, sealOff, resumes.isHalted_eq]
    exact resumes.alike _
  suspend_live := by
    intro machine pid returns
    simp only [engineWith, Bool.not_eq_true'] at returns ⊢
    exact halted_eq_none (by simp [returns])

theorem paired_engine (invariant : Invariant holds) (patience depth : Nat) :
    Paired holds (engine patience depth) (sealedEngine patience depth) := by
  induction depth with
  | zero => exact paired_sealOff patience fun twins => twins
  | succ depth ih => exact paired_sealOff patience fun twins => ih.runNext invariant twins

/--
A machine and one that is sealed when it stops run alike, and what every operation keeps that the
kernel makes on the way holds when the machine has stopped.
-/
theorem run_alike (invariant : Invariant holds) (live : machine.halted = none)
    (begins : holds machine.system.kernel none) (name : String) (arguments : List String) :
    Alike holds (machine.run name arguments) (machine.runSealed name arguments) := by
  have twins : Twins holds machine machine := by
    refine ⟨rfl, ?_⟩
    rw [live]
    exact begins
  have paired := paired_engine invariant machine.bound machine.bound
  rcases (paired.spawn invariant twins live none name arguments).exists_eq with
    ⟨result, booted, otherBooted, boots, otherBoots, alike⟩
  simp only [run, runSealed, boots, otherBoots]
  cases result with
  | error cause => exact alike.alike _
  | ok root =>
      have same : otherBooted.bound = booted.bound := by
        rw [bound, bound, alike.system_eq]
      simp only [same]
      exact (paired.runUntilHalted invariant alike booted.bound).alike _

end Machine

end Lifecycle
