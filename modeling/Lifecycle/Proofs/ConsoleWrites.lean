import Lifecycle.Proofs.MachineCalls

/-!
# What the first process writes

Every system call is recorded when it begins, so the log tells which process wrote what. This file
reads the chunks that a process wrote off the log, and proves which calls leave those of the first
process alone.

Two machines resemble each other if they differ in nothing that decides how processes go on: they
may differ in the console, the counters and the log, but not in what the first process has written.
-/

namespace Lifecycle

/-! ### Chunks in the log -/

/-- The chunk that `pid` wrote to the console, if the record is of such a call. -/
def Log.Record.chunk? (pid : Pid) : Log.Record → Option (List UInt8)
  | .entered caller (.write descriptor bytes) =>
    if caller = pid ∧ descriptor = outputDescriptor then some bytes else none
  | _ => none

/-- The chunks that a process has written, the latest in front. -/
def Machine.chunks (machine : Machine) (pid : Pid) : List (List UInt8) :=
  machine.log.filterMap (Log.Record.chunk? pid)

/-- The effect is not the record of a call that writes. -/
def Effect.Silent : Effect → Prop
  | .log record => ∀ pid, record.chunk? pid = none
  | .wake _ => True
  | .powerOff _ => True

/-- None of the effects is. -/
def Silent (effects : List Effect) : Prop := ∀ effect ∈ effects, effect.Silent

theorem Untraced.silent {effects : List Effect} (untraced : Untraced effects) :
    Silent effects := by
  intro effect member
  have level := untraced effect member
  cases effect with
  | log record =>
      intro pid
      cases record with
      | entered caller call => exact absurd rfl level
      | _ => rfl
  | wake pid => trivial
  | powerOff reason => trivial

/-! ### Machines that resemble each other -/

namespace Machine

/--
The machine `next` may differ in the console, the counters and the log, but not in what the first
process has written.
-/
structure Resembles (machine next : Machine) : Prop where
  kernel_eq : next.system.kernel = machine.system.kernel
  schedule_eq : next.schedule = machine.schedule
  ready_eq : next.ready = machine.ready
  startsLeft_eq : next.startsLeft = machine.startsLeft
  halted_eq : next.halted = machine.halted
  chunks_eq : next.chunks .root = machine.chunks .root

namespace Resembles

variable {machine middle next : Machine}

theorem refl (machine : Machine) : machine.Resembles machine := ⟨rfl, rfl, rfl, rfl, rfl, rfl⟩

theorem trans (first : machine.Resembles middle) (second : middle.Resembles next) :
    machine.Resembles next where
  kernel_eq := second.kernel_eq.trans first.kernel_eq
  schedule_eq := second.schedule_eq.trans first.schedule_eq
  ready_eq := second.ready_eq.trans first.ready_eq
  startsLeft_eq := second.startsLeft_eq.trans first.startsLeft_eq
  halted_eq := second.halted_eq.trans first.halted_eq
  chunks_eq := second.chunks_eq.trans first.chunks_eq

theorem withReady (same : machine.Resembles next) (ready : List (Launch Main)) :
    Resembles { machine with ready := ready } { next with ready := ready } :=
  ⟨same.kernel_eq, same.schedule_eq, rfl, same.startsLeft_eq, same.halted_eq, same.chunks_eq⟩

end Resembles

theorem chunks_foldl_carryOut {effects : List Effect} (silent : Silent effects)
    (machine : Machine) (pid : Pid) :
    (effects.foldl carryOut machine).chunks pid = machine.chunks pid := by
  induction effects generalizing machine with
  | nil => rfl
  | cons effect effects ih =>
      rcases List.forall_mem_cons.mp silent with ⟨first, others⟩
      rw [List.foldl_cons, ih others]
      cases effect with
      | log record => exact List.filterMap_cons_none (first pid)
      | wake waiter => rfl
      | powerOff reason => rfl

section Calls

variable (patience : Nat) (runOther : Machine → Machine) (machine : Machine) {pid : Pid}

/-- The machine with the kernel that an operation left, and stopped if the operation says so. -/
def changed (kernel : Kernel Main) (told : List Effect) : Machine :=
  { machine.withKernel kernel with halted := told.foldl haltedBy machine.halted }

theorem resembles_settle (kernel : Kernel Main) {effects : List Effect} (silent : Silent effects) :
    (machine.changed kernel (signals effects)).Resembles
      ((engineWith patience runOther).settle { machine.system with kernel := kernel } effects
        machine) := by
  have chunks := chunks_foldl_carryOut silent (machine.withKernel kernel) .root
  rcases foldl_carryOut effects (machine.withKernel kernel) with ⟨log, carried⟩
  rw [carried] at chunks
  have settled : (engineWith patience runOther).settle { machine.system with kernel := kernel }
      effects machine = _ := carried
  rw [settled]
  exact ⟨rfl, rfl, rfl, rfl, rfl, chunks⟩

theorem resembles_onKernel {α : Type} (operation : Kernel Main → α × Kernel Main × List Effect)
    {answer : α} {kernel : Kernel Main} {effects : List Effect}
    (operated : operation machine.system.kernel = (answer, kernel, effects))
    (silent : Silent (operation machine.system.kernel).2.2) :
    ∃ next, (engineWith patience runOther).onKernel operation machine = (answer, next) ∧
      (machine.changed kernel (signals effects)).Resembles next := by
  rw [operated] at silent
  refine ⟨_, ?_, resembles_settle patience runOther machine kernel silent⟩
  have stored : (engineWith patience runOther).system machine = machine.system := rfl
  simp only [Engine.onKernel, stored, operated]

theorem resembles_report {effects : List Effect} (calm : signals effects = [])
    (silent : Silent effects) :
    machine.Resembles ((engineWith patience runOther).report effects machine) := by
  have left := resembles_settle patience runOther machine machine.system.kernel silent
  rw [calm] at left
  exact left

/-- On a machine that goes on, a process is started unless the starts have run out. -/
theorem start_cases (launch : Launch Main) (live : machine.halted = none) :
    (∃ left, (machine.startsLeft = none → left = none) ∧
      (engineWith patience runOther).start launch machine =
        (none, started runOther
          { machine with ready := machine.ready ++ [launch], startsLeft := left })) ∨
      machine.startsLeft ≠ none ∧
        (engineWith patience runOther).start launch machine =
          (some .noExecutionContext, machine) := by
  have going : machine.isHalted = false := congrArg Option.isSome live
  cases starts : machine.startsLeft with
  | none =>
      refine Or.inl ⟨none, fun _ => rfl, ?_⟩
      simp only [engineWith, going, admit?, starts]
      rfl
  | some left =>
      cases left with
      | zero =>
          refine Or.inr ⟨Option.some_ne_none 0, ?_⟩
          simp only [engineWith, going, admit?, starts]
          rfl
      | succ left =>
          refine Or.inl ⟨some left, fun unlimited => absurd unlimited (Option.some_ne_none _), ?_⟩
          simp only [engineWith, going, admit?, starts]
          rfl

/-- A creation that fails leaves what its first step left. -/
theorem resembles_spawn_of_error {parent : Option Pid} {name : String} {arguments : List String}
    {cause : ExecError} {kernel : Kernel Main} {effects : List Effect}
    (prepared : machine.system.kernel.prepare parent name arguments =
      (.error cause, kernel, effects)) :
    ∃ next, (engineWith patience runOther).spawn parent name arguments machine =
        (.error cause, next) ∧
      (machine.changed kernel (signals effects)).Resembles next := by
  rcases resembles_onKernel patience runOther machine
    (fun kernel => kernel.prepare parent name arguments) prepared
    (Kernel.untraced_prepare _ parent name arguments).silent with ⟨opened, begins, first⟩
  refine ⟨_, ?_, first.trans (resembles_report patience runOther opened
    (Kernel.signals_creationRecords parent name (.error cause))
    (Kernel.untraced_creationRecords parent name (.error cause)).silent)⟩
  rw [Engine.spawn, begins]

/-- A creation goes on with what the engine left when it was told to start the process. -/
theorem resembles_spawn_of_ok {parent : Option Pid} {name : String} {arguments : List String}
    {launch : Launch Main} {kernel : Kernel Main} {effects : List Effect}
    (calm : signals effects = [])
    (prepared : machine.system.kernel.prepare parent name arguments =
      (.ok launch, kernel, effects)) :
    ∃ opened, (machine.withKernel kernel).Resembles opened ∧
      ∀ {refusal begun},
        (engineWith patience runOther).start launch opened = (refusal, begun) →
          ∃ next, (engineWith patience runOther).spawn parent name arguments machine =
              ((begun.system.kernel.conclude launch.pid refusal).1, next) ∧
            (begun.withKernel (begun.system.kernel.conclude launch.pid refusal).2.1).Resembles
              next := by
  rcases resembles_onKernel patience runOther machine
    (fun kernel => kernel.prepare parent name arguments) prepared
    (Kernel.untraced_prepare _ parent name arguments).silent with ⟨opened, begins, first⟩
  rw [calm] at first
  refine ⟨opened, first, ?_⟩
  intro refusal begun started
  rcases concluded : begun.system.kernel.conclude launch.pid refusal with ⟨result, left, closing⟩
  have quiet := @Kernel.signals_conclude _ begun.system.kernel launch.pid refusal
  rw [concluded] at quiet
  rcases resembles_onKernel patience runOther begun
    (fun kernel => kernel.conclude launch.pid refusal) concluded
    (Kernel.untraced_conclude _ launch.pid refusal).silent with ⟨closed, ends, last⟩
  rw [quiet] at last
  refine ⟨_, ?_, last.trans (resembles_report patience runOther closed
    (Kernel.signals_creationRecords parent name result)
    (Kernel.untraced_creationRecords parent name result).silent)⟩
  rw [Engine.spawn, begins]
  simp only [started, ends]

/-- The machine on which a call is carried out, after it was counted and recorded. -/
def entering (call : Syscall.Call) (pid : Pid) : Machine :=
  { machine.counted call.number with log := .entered pid call :: machine.log }

/-- What a call leaves resembles the machine after it. -/
theorem resembles_serve {call : Syscall.Call} {reply : Syscall.Reply} {next : Machine}
    (live : machine.halted = none)
    (performed : (engineWith patience runOther).perform pid call (machine.entering call pid) =
      (some reply, next)) :
    ∃ after, next.Resembles after ∧ serve (engineWith patience runOther) pid call machine =
      (if next.isHalted then none else some reply, after) := by
  refine ⟨{ next with log := .returned pid call.number reply.value :: next.log },
    ⟨rfl, rfl, rfl, rfl, rfl, rfl⟩, ?_⟩
  have recorded : (engineWith patience runOther).setStats
      (((engineWith patience runOther).system machine).stats.record call.number) machine =
        machine.counted call.number := rfl
  have entered : (engineWith patience runOther).report [.log (.entered pid call)]
      (machine.counted call.number) = machine.entering call pid := rfl
  rw [serve, isHalted, live, Engine.handle, Engine.trace, recorded, entered, performed]
  rfl

/--
A call with which the first process writes nothing makes no difference before it is carried out.
-/
theorem resembles_entering {call : Syscall.Call}
    (silent : Log.Record.chunk? .root (.entered pid call) = none) :
    machine.Resembles (machine.entering call pid) :=
  ⟨rfl, rfl, rfl, rfl, rfl, List.filterMap_cons_none silent⟩

end Calls

end Machine

end Lifecycle
