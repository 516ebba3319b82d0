import Lifecycle.Program.Library
import Lifecycle.Proofs.ChildRuns
import Lifecycle.Proofs.EngineRuns
import Lifecycle.Proofs.PidReuse

/-!
# The integer interface

Between a program and the kernel nothing passes but 32-bit integers. A pid leaves the kernel as an
integer and comes back as one; the end of a child leaves it as a value and a status, which a library
function puts together again. This file proves that nothing is lost on the way: what the library
functions hand over tells the results of the kernel's own calls, and the other way round.

The conversions of pids are partial, and where one fails the kernel replies with the value of a
refusal. That no pid of a child gets that reply rests on the cap of the process table, which holds
in every session, whatever highest pid it was configured with.
-/

namespace Lifecycle

/-! ### Pids as integers -/

namespace Pid

variable {raw : Int32} {pid : Pid}

theorem ofInt32?_eq_none_iff : ofInt32? raw = none ↔ raw < 0 := by
  simp [ofInt32?]

theorem ofInt32?_eq_some_iff : ofInt32? raw = some pid ↔ raw.toInt = pid.number := by
  have sign : raw < 0 ↔ raw.toInt < 0 := Int32.lt_iff_toInt_lt
  unfold ofInt32?
  split
  · rename_i negative
    have below := sign.mp negative
    simp only [reduceCtorEq, false_iff]
    omega
  · rename_i natural
    have above := mt sign.mpr natural
    simp only [Option.some.injEq, Pid.ext_iff, Int32.toNatClampNeg]
    omega

theorem not_negative_of_named (named : raw.toInt = pid.number) : ¬raw < 0 := by
  intro negative
  rw [← ofInt32?_eq_some_iff, ofInt32?_eq_none_iff.mpr negative] at named
  cases named

/-- Every integer is negative or names a process. -/
theorem negative_or_named (raw : Int32) : raw < 0 ∨ ∃ pid : Pid, raw.toInt = pid.number := by
  cases named : ofInt32? raw with
  | none => exact Or.inl (ofInt32?_eq_none_iff.mp named)
  | some pid => exact Or.inr ⟨pid, ofInt32?_eq_some_iff.mp named⟩

theorem toInt32?_eq_some_iff : pid.toInt32? = some raw ↔ raw.toInt = pid.number := by
  have below := raw.toInt_lt
  by_cases inRange : pid.number ≤ pidLimit
  · simp only [toInt32?, if_pos inRange, Option.some.injEq, ← Int32.toInt_inj,
      toInt_ofNat inRange]
    exact eq_comm
  · simp only [toInt32?, if_neg inRange, reduceCtorEq, false_iff]
    simp only [pidLimit] at inRange
    omega

end Pid

/-! ### Programs over calls -/

namespace Program

variable {α σ : Type}

/--
What a program hands over where `answer` carries out its system calls, and the state after it; it
hands over nothing if it ends before that or if a call does not return.
-/
def runOver (answer : Syscall.Call → σ → Option Syscall.Reply × σ) :
    Program α → σ → Option α × σ
  | done value, state => (some value, state)
  | crash, state => (none, state)
  | exit status, state => (none, (answer (.exit status) state).2)
  | halt next, state =>
    match answer .halt state with
    | (none, state) => (none, state)
    | (some reply, state) => runOver answer (next reply.value) state
  | exec name arguments next, state =>
    match answer (.exec name arguments) state with
    | (none, state) => (none, state)
    | (some reply, state) => runOver answer (next reply.value) state
  | join target next, state =>
    match answer (.join target) state with
    | (none, state) => (none, state)
    | (some reply, state) => runOver answer (next reply.value reply.status) state
  | read descriptor buffer next, state =>
    match answer (.read descriptor buffer) state with
    | (none, state) => (none, state)
    | (some reply, state) => runOver answer (next reply.value reply.buffer) state
  | write descriptor bytes next, state =>
    match answer (.write descriptor bytes) state with
    | (none, state) => (none, state)
    | (some reply, state) => runOver answer (next reply.value) state

variable (answer : Syscall.Call → σ → Option Syscall.Reply × σ) (state : σ)

theorem runOver_spawn (name : String) (arguments : List String) :
    (spawn name arguments).runOver answer state =
      ((answer (.exec name arguments) state).1.map fun reply =>
          if 0 ≤ reply.value then .ok reply.value else .error .execFailed,
        (answer (.exec name arguments) state).2) := by
  simp only [spawn, runOver]
  rcases answer (.exec name arguments) state with ⟨reply, left⟩
  cases reply <;> rfl

theorem runOver_wait (raw : Int32) :
    (wait raw).runOver answer state =
      ((answer (.join raw) state).1.map fun reply =>
          .ofReply reply.value (reply.status.getD 0),
        (answer (.join raw) state).2) := by
  simp only [wait, runOver]
  rcases answer (.join raw) state with ⟨reply, left⟩
  cases reply <;> rfl

end Program

/-! ### Results and what programs are told of them -/

open Program (SpawnError JoinStatus)

/-- What `spawn` hands over tells how the creation of the child went. -/
structure TellsCreation (result : Except ExecError Pid)
    (told : Option (Except SpawnError Int32)) : Prop where
  ok_iff : ∀ raw : Int32, told = some (.ok raw) ↔
    ∃ pid : Pid, result = .ok pid ∧ raw.toInt = pid.number
  /-- Every child that was created has an integer. -/
  exists_ok : ∀ pid, result = .ok pid → ∃ raw, told = some (.ok raw)
  error_iff : told = some (.error .execFailed) ↔ ∃ cause, result = .error cause

/--
What `wait` hands over tells how the wait for the process named by `raw` went; `result` has the
result for each process. A negative number names none.
-/
structure TellsJoin (raw : Int32) (result : Pid → Option (Except JoinError Termination))
    (told : Option JoinStatus) : Prop where
  exited_iff : ∀ status, told = some (.exited status) ↔
    ∃ target : Pid, raw.toInt = target.number ∧ result target = some (.ok (.exit status))
  abnormal_iff : told = some .abnormal ↔
    ∃ target : Pid, raw.toInt = target.number ∧ result target = some (.ok .abnormal)
  invalid_iff : told = some .invalid ↔
    raw < 0 ∨ ∃ target : Pid, raw.toInt = target.number ∧ result target = some (.error .notAChild)
  /-- The program never goes on exactly if the wait does not end. -/
  none_iff : told = none ↔ ∃ target : Pid, raw.toInt = target.number ∧ result target = none

theorem tellsCreation {result : Except ExecError Pid}
    (capped : ∀ pid, result = .ok pid → pid.number ≤ pidLimit) :
    TellsCreation result (some
      (if 0 ≤ (Syscall.Reply.ofExec result).value then .ok (Syscall.Reply.ofExec result).value
        else .error .execFailed)) := by
  cases result with
  | error cause =>
      have value : (Syscall.Reply.ofExec (.error cause)).value = -1 := rfl
      have refused : ¬(0 : Int32) ≤ -1 := by decide
      simp only [value, if_neg refused]
      exact ⟨by simp, by simp, by simp⟩
  | ok pid =>
      have told := Pid.toInt32?_of_le (capped pid rfl)
      have named := Pid.toInt32?_eq_some_iff.mp told
      have value : (Syscall.Reply.ofExec (.ok pid)).value = Int32.ofNat pid.number := by
        simp [Syscall.Reply.ofExec, Syscall.Reply.ofValue, told]
      have natural : 0 ≤ Int32.ofNat pid.number := by
        simp [Int32.le_iff_toInt_le, named]
      simp only [value, if_pos natural]
      refine ⟨?_, ?_, ?_⟩
      · intro raw
        simp only [Option.some.injEq, Except.ok.injEq, exists_eq_left']
        rw [← Pid.toInt32?_eq_some_iff, told, Option.some.injEq]
      · exact fun other _ => ⟨_, rfl⟩
      · simp

namespace Program.JoinStatus

/-- How a program takes the result of a wait. -/
def ofResult : Except JoinError Termination → JoinStatus
  | .ok (.exit status) => .exited status
  | .ok .abnormal => .abnormal
  | .error .notAChild => .invalid

theorem ofReply_ofJoin (result : Except JoinError Termination) :
    ofReply (Syscall.Reply.ofJoin result).value ((Syscall.Reply.ofJoin result).status.getD 0) =
      ofResult result := by
  rcases result with ⟨⟨⟩⟩ | ⟨status | _⟩ <;> rfl

theorem ofResult_injective : Function.Injective ofResult := by
  rintro (⟨⟨⟩⟩ | ⟨status | _⟩) (⟨⟨⟩⟩ | ⟨other | _⟩) same <;> cases same <;> rfl

end Program.JoinStatus

theorem Syscall.Reply.status_isSome_ofJoin_iff (result : Except JoinError Termination) :
    (ofJoin result).status.isSome = true ↔ (ofJoin result).value = 1 := by
  rcases result with ⟨⟨⟩⟩ | ⟨status | _⟩ <;> simp [ofJoin, ofValue, failure]

section Joins

variable {raw : Int32} (result : Pid → Option (Except JoinError Termination))

theorem tellsJoin_of_negative (negative : raw < 0) : TellsJoin raw result (some .invalid) := by
  have unnamed (target : Pid) : ¬raw.toInt = target.number :=
    fun named => Pid.not_negative_of_named named negative
  exact ⟨by simp [unnamed], by simp [unnamed], by simp [negative], by simp [unnamed]⟩

theorem tellsJoin_of_named {target : Pid} (named : raw.toInt = target.number) :
    TellsJoin raw result ((result target).map .ofResult) := by
  have natural := Pid.not_negative_of_named named
  -- No other process is named by the same integer.
  have only (holds : Pid → Prop) :
      (∃ other : Pid, raw.toInt = other.number ∧ holds other) ↔ holds target := by
    constructor
    · rintro ⟨other, also, held⟩
      have same : other = target := Pid.ext (by omega)
      exact same ▸ held
    · exact fun held => ⟨target, named, held⟩
  have told (outcome : Except JoinError Termination) :
      (result target).map JoinStatus.ofResult = some (.ofResult outcome) ↔
        result target = some outcome := by
    rw [← Option.map_some, (Option.map_injective JoinStatus.ofResult_injective).eq_iff]
  refine ⟨?_, ?_, ?_, ?_⟩
  · intro status
    rw [only]
    exact told (.ok (.exit status))
  · rw [only]
    exact told (.ok .abnormal)
  · rw [only, or_iff_right natural]
    exact told (.error .notAChild)
  · rw [only]
    exact Option.map_eq_none_iff

end Joins

namespace Engine

open Syscall (Reply)

variable {E σ : Type} (engine : Engine E σ) (caller : Pid)

/-- The state in which a call is carried out, after it was counted and recorded. -/
def entered (call : Syscall.Call) (state : σ) : σ :=
  engine.report [.log (.entered caller call)]
    (engine.setStats ((engine.system state).stats.record call.number) state)

theorem handle_eq (call : Syscall.Call) (state : σ) :
    engine.handle caller call state =
      match engine.perform caller call (engine.entered caller call state) with
      | (none, state) => (none, state)
      | (some reply, state) =>
        (some reply, engine.report [.log (.returned caller call.number reply.value)] state) := rfl

theorem fst_handle (call : Syscall.Call) (state : σ) :
    (engine.handle caller call state).1 =
      (engine.perform caller call (engine.entered caller call state)).1 := by
  rw [handle_eq]
  rcases engine.perform caller call (engine.entered caller call state) with ⟨_ | reply, left⟩ <;>
    rfl

section Stores

variable {engine} (stores : ∀ system effects state,
  engine.system (engine.settle system effects state) = system)

include stores

theorem kernel_entered (call : Syscall.Call) (state : σ) :
    engine.kernel (engine.entered caller call state) = engine.kernel state := by
  simp only [kernel, entered, report, setStats, stores]

/-- Nothing but the call itself changes the kernel. -/
theorem kernel_handle (call : Syscall.Call) (state : σ) :
    engine.kernel (engine.handle caller call state).2 =
      engine.kernel (engine.perform caller call (engine.entered caller call state)).2 := by
  rw [handle_eq]
  rcases engine.perform caller call (engine.entered caller call state) with ⟨_ | reply, left⟩
  · rfl
  · simp only [kernel, report, stores]

end Stores

/-! ### Nothing is lost -/

/--
What the library functions hand over to `caller` in a state tells the results of the calls of the
kernel that are made for them, and the kernel is left as by those calls.
-/
structure Faithful (engine : Engine E σ) (caller : Pid) (state : σ) : Prop where
  /-- Counting and recording a call does not change the kernel. -/
  kernel_entered : ∀ call, engine.kernel (engine.entered caller call state) = engine.kernel state
  spawn : ∀ name arguments,
    TellsCreation
      (engine.spawn (some caller) name arguments
        (engine.entered caller (.exec name arguments) state)).1
      ((Program.spawn name arguments).runOver (engine.handle caller) state).1
  kernel_spawn : ∀ name arguments,
    engine.kernel ((Program.spawn name arguments).runOver (engine.handle caller) state).2 =
      engine.kernel (engine.spawn (some caller) name arguments
        (engine.entered caller (.exec name arguments) state)).2
  wait : ∀ raw,
    TellsJoin raw
      (fun target => (engine.join caller target (engine.entered caller (.join raw) state)).1)
      ((Program.wait raw).runOver (engine.handle caller) state).1
  kernel_wait : ∀ (raw : Int32) (target : Pid), raw.toInt = target.number →
    engine.kernel ((Program.wait raw).runOver (engine.handle caller) state).2 =
      engine.kernel (engine.join caller target (engine.entered caller (.join raw) state)).2
  kernel_wait_negative : ∀ raw : Int32, raw < 0 →
    engine.kernel ((Program.wait raw).runOver (engine.handle caller) state).2 = engine.kernel state
  /-- A status is stored together with the value 1 and never otherwise. -/
  status_iff : ∀ raw reply, (engine.perform caller (.join raw) state).1 = some reply →
    (reply.status.isSome = true ↔ reply.value = 1)
  join_negative : ∀ raw : Int32, raw < 0 →
    engine.perform caller (.join raw) state = (some .failure, state)

variable {engine} {caller} {state : σ}

theorem perform_join_of_negative {raw : Int32} (negative : raw < 0) :
    engine.perform caller (.join raw) state = (some .failure, state) := by
  simp only [perform, Pid.ofInt32?_eq_none_iff.mpr negative]

theorem perform_join_of_named {raw : Int32} {target : Pid} (named : raw.toInt = target.number) :
    engine.perform caller (.join raw) state =
      ((engine.join caller target state).1.map .ofJoin, (engine.join caller target state).2) := by
  simp only [perform, Pid.ofInt32?_eq_some_iff.mpr named]

/-- The children of a session have pids that the interface can pass. -/
theorem pid_le_of_spawn {config : KernelConfig} {registry : ImageRegistry E} {moves : List Move}
    (reached : engine.kernel state = ((Activity.boot config registry).run moves).2.kernel)
    {parent : Option Pid} {name : String} {arguments : List String} {pid : Pid}
    (created : (engine.spawn parent name arguments state).1 = .ok pid) :
    pid.number ≤ pidLimit := by
  have steps := Activity.steps_run (Activity.sound_boot config registry) moves
  have wellFormed := (steps.sound (Activity.sound_boot config registry)).wellFormed
  have capped := Activity.maxPid_of_steps steps
  rw [← reached] at wellFormed capped
  rcases pid_of_spawn wellFormed created with ⟨rfl, inRange⟩
  calc
    (engine.kernel state).table.nextPid ≤ (engine.kernel state).table.maxPid := inRange
    _ = min config.maxPid pidLimit := capped
    _ ≤ pidLimit := Nat.min_le_right _ _

/--
Wherever a session has led the kernel to, whatever its highest pid, a program is told of its
children what the kernel's own calls return: `spawn` hands over the pid of every child that is
created and of no other, `wait` hands over every status as it was given, and a negative number
changes nothing.
-/
theorem library_is_faithful
    (stores : ∀ system effects state, engine.system (engine.settle system effects state) = system)
    (config : KernelConfig) (registry : ImageRegistry E) (moves : List Move)
    (reached : engine.kernel state = ((Activity.boot config registry).run moves).2.kernel)
    (caller : Pid) : engine.Faithful caller state where
  kernel_entered call := kernel_entered caller stores call state
  spawn name arguments := by
    simp only [Program.runOver_spawn, fst_handle, perform, Option.map_some]
    apply tellsCreation
    intro pid created
    exact pid_le_of_spawn ((kernel_entered caller stores _ state).trans reached) created
  kernel_spawn name arguments := by
    simp only [Program.runOver_spawn, kernel_handle caller stores, perform]
  wait raw := by
    simp only [Program.runOver_wait, fst_handle]
    rcases Pid.negative_or_named raw with negative | ⟨target, named⟩
    · simp only [perform_join_of_negative negative]
      exact tellsJoin_of_negative _ negative
    · simp only [perform_join_of_named named, Option.map_map, Function.comp_def,
        Program.JoinStatus.ofReply_ofJoin]
      exact tellsJoin_of_named _ named
  kernel_wait raw target named := by
    simp only [Program.runOver_wait, kernel_handle caller stores, perform_join_of_named named]
  kernel_wait_negative raw negative := by
    simp only [Program.runOver_wait, kernel_handle caller stores,
      perform_join_of_negative negative, kernel_entered caller stores]
  status_iff raw reply replies := by
    rcases Pid.negative_or_named raw with negative | ⟨target, named⟩
    · simp only [perform_join_of_negative negative, Option.some.injEq] at replies
      subst replies
      decide
    · simp only [perform_join_of_named named, Option.map_eq_some_iff] at replies
      rcases replies with ⟨result, _, rfl⟩
      exact Reply.status_isSome_ofJoin_iff result
  join_negative raw negative := perform_join_of_negative negative

end Engine

namespace Session

/-- The child of the first process ends with the value that stands for refusals. -/
def endedLikeRefusal : List Move :=
  [.spawn none "a.coff" [], .answer none, .spawn (some .root) "a.coff" [], .answer none,
    .exit ⟨1⟩ (some (-1))]

/-- A scene after that; the highest pid was set beyond what the interface can pass. -/
def afterChild : Scene where
  session :=
    { system :=
        { kernel := ((Activity.boot { maxPid := values32 - 1 } (.ofList [⟨"a.coff", 1, "a"⟩])).run
            endedLikeRefusal).2.kernel
          console := {}
          stats := .zero } }

end Session

/-- The status of the child is not taken for a refusal. -/
theorem Engine.library_is_faithful_after_child :
    (Session.engine none (Session.runSteps []) 0).Faithful .root Session.afterChild ∧
      ((Program.wait 1).runOver ((Session.engine none (Session.runSteps []) 0).handle .root)
        Session.afterChild).1 = some (.exited (-1)) := by
  have lawful := Session.lawful_engine none 0 (Session.returns_runSteps [])
  have reached : (Session.engine none (Session.runSteps []) 0).kernel Session.afterChild =
      ((Activity.boot { maxPid := values32 - 1 } (.ofList [⟨"a.coff", 1, "a"⟩])).run
        Session.endedLikeRefusal).2.kernel := by
    simp only [kernel, Session.engine, Session.afterChild]
  have faithful := library_is_faithful lawful.system_settle _ _ _ reached .root
  refine ⟨faithful, ?_⟩
  apply ((faithful.wait 1).exited_iff (-1)).mpr
  refine ⟨⟨1⟩, by decide, ?_⟩
  decide +kernel

end Lifecycle
