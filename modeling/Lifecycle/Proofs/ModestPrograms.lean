import Lifecycle.Proofs.ChildRuns
import Lifecycle.Proofs.ConsoleWrites
import Lifecycle.Program.Builtin

/-!
# Modest programs

A program is modest if it only reads, writes and asks to halt, and returns 0. While another process
runs, a modest one always runs to its end, whatever it reads, and leaves nothing but its status: it
is not the last process, so it cannot halt the machine.
-/

namespace Lifecycle

/-! ### Modest programs -/

namespace Program

variable {α β : Type} {asks : Prop} {holds : α → Prop}

/--
Whatever it is told, the program only reads and writes, and hands over a value with a property. If
`asks`, it may also ask to halt the machine, which it is refused.
-/
def Modest (asks : Prop) (holds : α → Prop) : Program α → Prop
  | done value => holds value
  | halt next => asks ∧ Modest asks holds (next (-1))
  | read _ _ next => ∀ value bytes, Modest asks holds (next value bytes)
  | write _ _ next => ∀ value, Modest asks holds (next value)
  | exit _ => False
  | crash => False
  | exec _ _ _ => False
  | join _ _ => False

namespace Modest

theorem bind {program : Program α} {rest : α → Program β} {later : β → Prop}
    (first : program.Modest asks holds)
    (second : ∀ value, holds value → (rest value).Modest asks later) :
    (program >>= rest).Modest asks later := by
  change (Program.bind rest program).Modest asks later
  induction program with
  | done value => exact second value first
  | halt next ih => exact ⟨first.1, ih _ first.2⟩
  | read descriptor buffer next ih => exact fun value bytes => ih value bytes (first value bytes)
  | write descriptor bytes next ih => exact fun value => ih value (first value)
  | exit status => cases first
  | crash => cases first
  | exec name arguments next ih => cases first
  | join pid next ih => cases first

theorem print (text : String) : (print text).Modest asks fun _ => True := fun _ => trivial

theorem printLine (text : String) : (printLine text).Modest asks fun _ => True := print _

theorem printLines (texts : List String) : (printLines texts).Modest asks fun _ => True := by
  induction texts with
  | nil => trivial
  | cons text texts ih => exact (printLine text).bind fun _ _ => ih

theorem collectLine (room : Nat) (buffer : UInt8) (collected : List UInt8) :
    (collectLine room buffer collected).Modest asks fun _ => True := by
  induction room generalizing buffer collected with
  | zero => trivial
  | succ room ih =>
      intro value bytes
      dsimp only
      split
      · trivial
      · exact ih _ _

theorem readLine : Program.readLine.Modest asks fun _ => True :=
  (collectLine _ _ _).bind fun _ _ => trivial

/-- It is refused to halt the machine, says so and returns 0. -/
theorem echo (arguments : List String) : (echo arguments).Modest True (· = 0) :=
  (print _).bind fun _ _ => readLine.bind fun _ _ => (printLine _).bind fun _ _ =>
    ⟨trivial, (printLine _).bind fun _ _ => rfl⟩

theorem printArguments (arguments : List String) :
    (printArguments arguments).Modest asks (· = 0) :=
  (printLines _).bind fun _ _ => rfl

end Modest

end Program

namespace Machine

section Follow

variable (patience : Nat) (runOther : Machine → Machine) {machine : Machine} {pid : Pid}

/-- A call that leaves the machine as it is makes no difference but in what it replies. -/
theorem serve_of_resembles {call : Syscall.Call} {reply : Syscall.Reply} {next : Machine}
    (live : machine.halted = none)
    (silent : Log.Record.chunk? .root (.entered pid call) = none)
    (performed : (engineWith patience runOther).perform pid call (machine.entering call pid) =
      (some reply, next))
    (kept : (machine.entering call pid).Resembles next) :
    ∃ after, machine.Resembles after ∧
      serve (engineWith patience runOther) pid call machine = (some reply, after) := by
  rcases resembles_serve patience runOther machine live performed with ⟨after, left, served⟩
  have same := (resembles_entering machine silent).trans kept
  have going : next.isHalted = false := congrArg Option.isSome (same.halted_eq.trans live)
  rw [going] at served
  exact ⟨after, same.trans left, served⟩

/-- The program runs to its end, and leaves a machine like the one that it was started on. -/
def Passes (engine : Engine Main Machine) (pid : Pid) (holds : Int32 → Prop)
    (program : Program Int32) (machine : Machine) : Prop :=
  ∃ status after, follow engine pid program machine = (.returned status, after) ∧
    holds status ∧ machine.Resembles after

theorem Passes.of_follow {engine : Engine Main Machine} {holds : Int32 → Prop}
    {program rest : Program Int32} {left : Machine} (same : machine.Resembles left)
    (goesOn : follow engine pid program machine = follow engine pid rest left)
    (passes : Passes engine pid holds rest left) : Passes engine pid holds program machine := by
  rcases passes with ⟨status, after, follows, held, alike⟩
  exact ⟨status, after, goesOn.trans follows, held, same.trans alike⟩

/-- A modest program runs to its end, if it is refused to halt the machine where it asks to. -/
theorem passes_of_modest {asks : Prop} {holds : Int32 → Prop} {program : Program Int32}
    (modest : program.Modest asks holds) (stranger : pid ≠ .root) (live : machine.halted = none)
    (busy : asks → machine.system.kernel.table.running ≠ 1) :
    Passes (engineWith patience runOther) pid holds program machine := by
  induction program generalizing machine with
  | done status => exact ⟨status, machine, rfl, modest, .refl machine⟩
  | exit status => cases modest
  | crash => cases modest
  | exec name arguments next ih => cases modest
  | join target next ih => cases modest
  | halt next ih =>
      rcases modest with ⟨asked, modest⟩
      have refuses : machine.system.kernel.table.isLastRunning pid = false := by
        simp [ProcessTable.isLastRunning, busy asked]
      have halts : (machine.entering .halt pid).system.kernel.halt pid =
          (.error .notLastProcess, machine.system.kernel, [.log (.haltRefused pid)]) := by
        have same : (machine.entering .halt pid).system.kernel = machine.system.kernel := rfl
        rw [same, Kernel.halt, refuses]
        rfl
      rcases resembles_onKernel patience runOther (machine.entering .halt pid)
        (fun kernel => kernel.halt pid) halts (Kernel.untraced_halt _ pid).silent with
        ⟨after, refused, kept⟩
      have performed : (engineWith patience runOther).perform pid .halt
          (machine.entering .halt pid) = (some .failure, after) := by
        simp only [Engine.perform, Engine.halt, refused]
        rfl
      rcases serve_of_resembles patience runOther live rfl performed kept with
        ⟨left, same, served⟩
      have passes := ih (-1) modest (same.halted_eq.trans live)
        (by rw [same.kernel_eq]; exact busy)
      apply passes.of_follow same
      rw [follow, served]
      rfl
  | read descriptor buffer next ih =>
      have performed : ∃ reply after, (engineWith patience runOther).perform pid
          (.read descriptor buffer) (machine.entering (.read descriptor buffer) pid) =
            (some reply, after) ∧
              (machine.entering (.read descriptor buffer) pid).Resembles after := by
        simp only [Engine.perform, Engine.read]
        split
        · exact ⟨_, _, rfl, ⟨rfl, rfl, rfl, rfl, rfl, rfl⟩⟩
        · exact ⟨_, _, rfl, .refl _⟩
      rcases performed with ⟨reply, after, performed, kept⟩
      rcases serve_of_resembles patience runOther live rfl performed kept with
        ⟨left, same, served⟩
      have passes := ih reply.value reply.buffer (modest _ _) (same.halted_eq.trans live)
        (by rw [same.kernel_eq]; exact busy)
      apply passes.of_follow same
      rw [follow, served]
  | write descriptor bytes next ih =>
      have performed : ∃ reply after, (engineWith patience runOther).perform pid
          (.write descriptor bytes) (machine.entering (.write descriptor bytes) pid) =
            (some reply, after) ∧
              (machine.entering (.write descriptor bytes) pid).Resembles after := by
        simp only [Engine.perform, Engine.write]
        split
        · exact ⟨_, _, rfl, ⟨rfl, rfl, rfl, rfl, rfl, rfl⟩⟩
        · exact ⟨_, _, rfl, .refl _⟩
      rcases performed with ⟨reply, after, performed, kept⟩
      have silent : Log.Record.chunk? .root (.entered pid (.write descriptor bytes)) = none := by
        simp [Log.Record.chunk?, stranger]
      rcases serve_of_resembles patience runOther live silent performed kept with
        ⟨left, same, served⟩
      have passes := ih reply.value (modest _) (same.halted_eq.trans live)
        (by rw [same.kernel_eq]; exact busy)
      apply passes.of_follow same
      rw [follow, served]

end Follow

/-! ### The end of a modest program -/

/-- The machine after a program was followed to its end and the kernel was told of it. -/
def finished (engine : Engine Main Machine) (pid : Pid) (program : Program Int32)
    (machine : Machine) : Machine :=
  conclude engine pid (follow engine pid program machine).1 (follow engine pid program machine).2

theorem Resembles.departed {machine next : Machine} (same : machine.Resembles next) (pid : Pid)
    (status : Int32) : (machine.departed pid status).Resembles (next.departed pid status) where
  kernel_eq := congrArg (fun kernel => kernel.departed pid (some status)) same.kernel_eq
  schedule_eq := same.schedule_eq
  ready_eq := same.ready_eq
  startsLeft_eq := same.startsLeft_eq
  halted_eq := by
    simp only [Machine.departed, same.kernel_eq, same.halted_eq]
  chunks_eq := same.chunks_eq

theorem resembles_exit (patience : Nat) (runOther : Machine → Machine) {machine : Machine}
    {pid : Pid} (wellFormed : machine.system.kernel.table.WellFormed)
    (running : machine.system.kernel.table.stateOf? pid = some .running) (status : Int32) :
    (machine.departed pid status).Resembles
      ((engineWith patience runOther).exit pid (some status) machine) := by
  rcases Kernel.exit_cases wellFormed pid (some status) with ⟨idle, _⟩ | ⟨_, left, told⟩
  · exact absurd running idle
  · have ended : machine.departed pid status =
        machine.changed (machine.system.kernel.exit pid (some status)).1
          (signals (machine.system.kernel.exit pid (some status)).2) := by
      rw [changed, told, foldl_departureSignals, left]
      rfl
    rw [ended]
    exact resembles_settle patience runOther machine _
      (Kernel.untraced_exit machine.system.kernel pid (some status)).silent

/-- A modest program that runs returns 0, and its process ends. -/
theorem resembles_finished (patience : Nat) (runOther : Machine → Machine) (machine : Machine)
    {pid : Pid} {asks : Prop} {program : Program Int32} (modest : program.Modest asks (· = 0))
    (stranger : pid ≠ .root) (live : machine.halted = none)
    (busy : asks → machine.system.kernel.table.running ≠ 1)
    (wellFormed : machine.system.kernel.table.WellFormed)
    (running : machine.system.kernel.table.stateOf? pid = some .running) :
    (machine.departed pid 0).Resembles
      (finished (engineWith patience runOther) pid program machine) := by
  rcases passes_of_modest patience runOther modest stranger live busy with
    ⟨_, after, follows, rfl, same⟩
  rw [finished, follows, conclude_returned _ _ (same.halted_eq.trans live)]
  apply (same.departed pid 0).trans
  rw [← same.kernel_eq] at wellFormed running
  exact resembles_exit patience runOther wellFormed running 0

theorem runNext_of_idle (engine : Engine Main Machine) {machine : Machine}
    (idle : machine.ready = []) : runNext engine machine = machine := by
  have taken : machine.takeNext? = none := by
    rw [takeNext?, idle]
    cases machine.schedule <;> rfl
  rw [runNext, taken]

/-- Which process runs next depends on the schedule; the others stay as they are. -/
theorem runNext_eq (engine : Engine Main Machine) {machine : Machine} (busy : machine.ready ≠ []) :
    ∃ launch others, machine.ready.Perm (launch :: others) ∧
      runNext engine machine =
        finished engine launch.pid (launch.entry launch.arguments)
          { machine with ready := others } := by
  have taken : ∃ launch others, machine.ready.Perm (launch :: others) ∧
      machine.takeNext? = some (launch, { machine with ready := others }) := by
    unfold takeNext?
    split
    · refine ⟨machine.ready.getLast busy, machine.ready.dropLast, ?_, ?_⟩
      · have whole := List.dropLast_append_getLast busy
        have permuted := List.perm_append_singleton (machine.ready.getLast busy)
          machine.ready.dropLast
        rw [whole] at permuted
        exact permuted
      · rw [List.getLast?_eq_some_getLast busy]
        rfl
    all_goals
      cases ready : machine.ready with
      | nil => exact absurd ready busy
      | cons launch others => exact ⟨launch, others, .refl _, rfl⟩
  rcases taken with ⟨launch, others, permuted, taken⟩
  refine ⟨launch, others, permuted, ?_⟩
  rw [runNext, taken]
  rfl

end Machine

end Lifecycle
