import Lifecycle.Console
import Lifecycle.Kernel
import Lifecycle.Syscall.Stats

/-!
# Execution engines

The calls of the kernel, complete from request to answer, over any engine that runs processes.

An engine keeps a state of its own that holds the system. It starts processes, suspends them and
carries out effects; while it starts or suspends one it may let other processes make calls. Every
call is written once, over an arbitrary engine, in two layers: the kernel's own calls, with their
typed results, and the system calls, which pass integers to programs.
-/

namespace Lifecycle

/-- The kernel with the console and the counters that system calls use. -/
structure System (E : Type) where
  kernel : Kernel E
  console : Console
  stats : Syscall.Stats
  deriving DecidableEq, Repr

/-- The system at boot, with input queued on the console. -/
def System.boot {E : Type} (config : KernelConfig) (registry : ImageRegistry E) (console : Console) :
    System E where
  kernel := .boot config registry
  console := console
  stats := .zero

/-- What runs the processes of a system, over states of type `σ`. -/
structure Engine (E σ : Type) where
  /-- The system in a state. -/
  system : σ → System E
  /-- Stores the system that an operation left, and carries out the effects in order. -/
  settle : System E → List Effect → σ → σ
  /-- Starts a process, or refuses to. -/
  start : Launch E → σ → Option StartError × σ
  /-- Suspends a process, and tells whether it ever runs again. -/
  suspend : Pid → σ → Bool × σ
  /-- How often a waiting process may be let look again before it is given up. -/
  patience : Nat

namespace Engine

variable {E σ : Type} (engine : Engine E σ)

/-- Runs an operation of the kernel. -/
def onKernel {α : Type} (operation : Kernel E → α × Kernel E × List Effect) (state : σ) : α × σ :=
  let system := engine.system state
  let (answer, kernel, effects) := operation system.kernel
  (answer, engine.settle { system with kernel := kernel } effects state)

/-- Carries out effects that leave the system as it is. -/
def report (effects : List Effect) (state : σ) : σ :=
  engine.settle (engine.system state) effects state

/-- Replaces the counters. -/
def setStats (stats : Syscall.Stats) (state : σ) : σ :=
  engine.settle { engine.system state with stats := stats } [] state

/-- Replaces the console. -/
def setConsole (console : Console) (state : σ) : σ :=
  engine.settle { engine.system state with console := console } [] state

/-! ### Calls of the kernel -/

/-- Creates and starts a process below `parent`; without a parent it is the first process. -/
def spawn (parent : Option Pid) (name : String) (arguments : List String) (state : σ) :
    Except ExecError Pid × σ :=
  let (prepared, state) := engine.onKernel (·.prepare parent name arguments) state
  let (result, state) : Except ExecError Pid × σ :=
    match prepared with
    | .error cause => (.error cause, state)
    | .ok launch =>
      let (refusal, state) := engine.start launch state
      engine.onKernel (·.conclude launch.pid refusal) state
  (result, engine.report (Kernel.creationRecords parent name result) state)

/-- Lets `caller` wait for `target`, looking again after at most `patience` suspensions. -/
def await (patience : Nat) (caller target : Pid) (state : σ) :
    Option (Except JoinError Termination) × σ :=
  match engine.onKernel (·.poll caller target) state with
  | (some result, state) => (some result, state)
  | (none, state) =>
    match engine.suspend caller state with
    | (false, state) => (none, state)
    | (true, state) =>
      match patience with
      | 0 => (none, state)
      | patience + 1 => await patience caller target state

/-- Waits for a child and collects it; `none` if the caller never comes back from its wait. -/
def join (caller target : Pid) (state : σ) : Option (Except JoinError Termination) × σ :=
  engine.await engine.patience caller target state

/-- Ends a process; without a status it ended abnormally. -/
def exit (caller : Pid) (status : Option Int32) (state : σ) : σ :=
  (engine.onKernel (fun kernel => ((), kernel.exit caller status)) state).2

/-- Powers the machine off if `caller` is the only process that runs. -/
def halt (caller : Pid) (state : σ) : Except HaltError Unit × σ :=
  engine.onKernel (·.halt caller) state

end Engine

namespace Syscall.Reply

/-- The reply to an `exec`: the pid of the child. -/
def ofExec : Except ExecError Pid → Reply
  | .ok pid => .ofValue (pid.toInt32?.getD (-1))
  | .error _ => failure

/-- The reply to a `join`: 1 with the status of the child, or 0 for a child that gave none. -/
def ofJoin : Except JoinError Termination → Reply
  | .ok (.exit status) => { value := 1, status := some status }
  | .ok .abnormal => .ofValue 0
  | .error _ => failure

/-- The reply to a `halt`: 0 if the machine powers off. -/
def ofHalt : Except HaltError Unit → Reply
  | .ok () => .ofValue 0
  | .error _ => failure

/-- A byte count as a value; what no 32-bit integer holds is reported as the largest one. -/
def countValue (count : Nat) : Int32 :=
  if count < 2147483648 then Int32.ofNat count else Int32.maxValue

end Syscall.Reply

namespace Engine

open Syscall

variable {E σ : Type} (engine : Engine E σ)

/-! ### System calls -/

/-- Reads from a descriptor; only the console input can be read. -/
def read (descriptor : Int32) (buffer : List UInt8) (state : σ) : Reply × σ :=
  if descriptor = inputDescriptor then
    let (count, buffer, console) := (engine.system state).console.read buffer
    ({ value := Reply.countValue count, buffer := buffer }, engine.setConsole console state)
  else ({ value := -1, buffer := buffer }, state)

/-- Writes to a descriptor; only the console output can be written. -/
def write (descriptor : Int32) (bytes : List UInt8) (state : σ) : Reply × σ :=
  if descriptor = outputDescriptor then
    let (count, console) := (engine.system state).console.write bytes
    (.ofValue (Reply.countValue count), engine.setConsole console state)
  else (.failure, state)

/-- Carries out a system call; `none` if the caller never comes back from it. -/
def perform (caller : Pid) (call : Call) (state : σ) : Option Reply × σ :=
  match call with
  | .halt =>
    let (result, state) := engine.halt caller state
    (some (.ofHalt result), state)
  | .exit status => (some (.ofValue 0), engine.exit caller (some status) state)
  | .exec name arguments =>
    let (result, state) := engine.spawn (some caller) name arguments state
    (some (.ofExec result), state)
  | .join pid =>
    match Pid.ofInt32? pid with
    | none => (some .failure, state)
    | some target =>
      let (result, state) := engine.join caller target state
      (result.map .ofJoin, state)
  | .read descriptor buffer =>
    let (reply, state) := engine.read descriptor buffer state
    (some reply, state)
  | .write descriptor bytes =>
    let (reply, state) := engine.write descriptor bytes state
    (some reply, state)
  | .unsupported number =>
    (some .failure, engine.report [.log (.unsupported caller number)] state)

/-- Carries out a system call, with a record when it begins and one when it returns. -/
def trace (caller : Pid) (call : Call) (state : σ) : Option Reply × σ :=
  let state := engine.report [.log (.entered caller call)] state
  match engine.perform caller call state with
  | (none, state) => (none, state)
  | (some reply, state) =>
    (some reply, engine.report [.log (.returned caller call.number reply.value)] state)

/-- Counts a system call, records and carries it out. -/
def handle (caller : Pid) (call : Call) (state : σ) : Option Reply × σ :=
  engine.trace caller call
    (engine.setStats ((engine.system state).stats.record call.number) state)

/-- Turns down a call of an undefined number. -/
def refuseUnknown (caller : Pid) (code : Nat) (state : σ) : Reply × σ :=
  (.failure, engine.report [.log (.unknown caller code)] state)

/-- Counts a call of an undefined number and turns it down. -/
def handleUnknown (caller : Pid) (code : Nat) (state : σ) : Reply × σ :=
  engine.refuseUnknown caller code
    (engine.setStats (engine.system state).stats.recordUnknown state)

/-- Ends a process that gave no status. -/
def abort (caller : Pid) (state : σ) : σ :=
  engine.exit caller none (engine.report [.log (.aborted caller)] state)

end Engine

end Lifecycle
