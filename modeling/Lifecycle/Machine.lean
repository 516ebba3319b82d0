import Lifecycle.Engine
import Lifecycle.Program

/-!
# Machines

Programs run on the kernel, one at a time.

A machine keeps the processes that were started and have not run yet. Running one means following its
program to the end; where it waits for a child, other processes run first, inside the wait. Once the
machine is powered off no process takes another step: it is stopped at its next system call, or in the
call that powered the machine off.

The recursion is bounded from outside. Each process runs once and no two have the same pid, so neither
the nesting of runs nor the number of times that a wait looks again exceeds the number of pids.
-/

namespace Lifecycle

/-- In which order started processes run. -/
inductive Schedule where
  /-- The one started first is next. -/
  | fifo
  /-- The one started last is next. -/
  | lifo
  /-- A process runs as soon as it is started, before its creator goes on. -/
  | eager
  deriving DecidableEq, Repr

/-- The state of a machine. -/
structure Machine where
  system : System Main
  schedule : Schedule
  /-- The processes that have not run yet, in the order in which they were started. -/
  ready : List (Launch Main) := []
  /-- How many more processes may be started; without a number, any. -/
  startsLeft : Option Nat := none
  /-- Why the machine stopped, if it has. -/
  halted : Option HaltReason := none
  /-- The log, the latest record in front. -/
  log : List Log.Record := []

namespace Machine

/-- Whether the machine has stopped. -/
def isHalted (machine : Machine) : Bool := machine.halted.isSome

/-- Carries out one effect. Only the first reason to power off counts. -/
def carryOut (machine : Machine) : Effect → Machine
  | .log record => { machine with log := record :: machine.log }
  | .wake _ => machine
  | .powerOff reason => { machine with halted := some (machine.halted.getD reason) }

/-- Takes out the process that runs next. -/
def takeNext? (machine : Machine) : Option (Launch Main × Machine) :=
  match machine.schedule with
  | .lifo =>
    machine.ready.getLast?.map fun launch =>
      (launch, { machine with ready := machine.ready.dropLast })
  | .fifo | .eager =>
    match machine.ready with
    | [] => none
    | launch :: ready => some (launch, { machine with ready := ready })

/-- Grants one more start, if any is left. -/
def admit? (machine : Machine) (launch : Launch Main) : Option Machine :=
  match machine.startsLeft with
  | none => some { machine with ready := machine.ready ++ [launch] }
  | some 0 => none
  | some (left + 1) =>
    some { machine with ready := machine.ready ++ [launch], startsLeft := some left }

/-- How the program of a process came to its end. -/
inductive Ending where
  | returned (status : Int32)
  | crashed
  /-- It called `exit`, or the machine stopped. -/
  | stopped
  deriving DecidableEq, Repr

/-- Makes a system call for a process; there is no reply if the process does not go on. -/
def serve (engine : Engine Main Machine) (pid : Pid) (call : Syscall.Call) (machine : Machine) :
    Option Syscall.Reply × Machine :=
  if machine.isHalted then (none, machine)
  else
    let (reply, machine) := engine.handle pid call machine
    (if machine.isHalted then none else reply, machine)

/-- Follows the program of a process to its end. -/
def follow (engine : Engine Main Machine) (pid : Pid) :
    Program Int32 → Machine → Ending × Machine
  | .done status, machine => (.returned status, machine)
  | .crash, machine => (.crashed, machine)
  | .exit status, machine => (.stopped, (serve engine pid (.exit status) machine).2)
  | .halt next, machine =>
    match serve engine pid .halt machine with
    | (none, machine) => (.stopped, machine)
    | (some reply, machine) => follow engine pid (next reply.value) machine
  | .exec name arguments next, machine =>
    match serve engine pid (.exec name arguments) machine with
    | (none, machine) => (.stopped, machine)
    | (some reply, machine) => follow engine pid (next reply.value) machine
  | .join target next, machine =>
    match serve engine pid (.join target) machine with
    | (none, machine) => (.stopped, machine)
    | (some reply, machine) => follow engine pid (next reply.value reply.status) machine
  | .read descriptor buffer next, machine =>
    match serve engine pid (.read descriptor buffer) machine with
    | (none, machine) => (.stopped, machine)
    | (some reply, machine) => follow engine pid (next reply.value reply.buffer) machine
  | .write descriptor bytes next, machine =>
    match serve engine pid (.write descriptor bytes) machine with
    | (none, machine) => (.stopped, machine)
    | (some reply, machine) => follow engine pid (next reply.value) machine

/-- Tells the kernel how a program ended, unless the machine has stopped. -/
def conclude (engine : Engine Main Machine) (pid : Pid) (ending : Ending) (machine : Machine) :
    Machine :=
  if machine.isHalted then machine
  else
    match ending with
    | .returned status => engine.exit pid (some status) machine
    | .crashed => engine.abort pid machine
    | .stopped => machine

/-- Runs the next process to its end. -/
def runNext (engine : Engine Main Machine) (machine : Machine) : Machine :=
  match machine.takeNext? with
  | none => machine
  | some (launch, machine) =>
    let (ending, machine) := follow engine launch.pid (launch.entry launch.arguments) machine
    conclude engine launch.pid ending machine

/-- The engine that lets other processes run as `runOther` does, and waits at most so often. -/
def engineWith (patience : Nat) (runOther : Machine → Machine) : Engine Main Machine where
  system := Machine.system
  settle system effects machine := effects.foldl carryOut { machine with system := system }
  start launch machine :=
    if machine.isHalted then (some .machineStopped, machine)
    else
      match machine.admit? launch with
      | none => (some .noExecutionContext, machine)
      | some machine =>
        (none, if machine.schedule = .eager then runOther machine else machine)
  suspend _ machine :=
    let machine := runOther machine
    (!machine.isHalted, machine)
  patience := patience

/-- The engine under which runs nest at most `depth` deep. -/
def engine (patience : Nat) : (depth : Nat) → Engine Main Machine
  | 0 => engineWith patience id
  | depth + 1 => engineWith patience fun machine => runNext (engine patience depth) machine

/-- Runs processes until the machine stops, at most so many. -/
def runUntilHalted (engine : Engine Main Machine) : (processes : Nat) → Machine → Machine
  | 0, machine => machine
  | processes + 1, machine =>
    if machine.isHalted then machine
    else runUntilHalted engine processes (runNext engine machine)

/-- How many pids a machine can hand out, one more for the look after the last one. -/
def bound (machine : Machine) : Nat := machine.system.kernel.table.maxPid + 2

/-- Boots the image `name` and runs the machine until it stops. -/
def run (machine : Machine) (name : String) (arguments : List String) :
    Except ExecError Pid × Machine :=
  let engine := engine machine.bound machine.bound
  match engine.spawn none name arguments machine with
  | (.error cause, machine) => (.error cause, machine)
  | (.ok root, machine) => (.ok root, runUntilHalted engine machine.bound machine)

/-- A machine that is switched on, with `input` queued on its console. -/
def switchedOn (config : KernelConfig) (registry : ImageRegistry Main) (input : List UInt8)
    (schedule : Schedule) (startsLeft : Option Nat) : Machine where
  system := .boot config registry (Console.push {} input)
  schedule := schedule
  startsLeft := startsLeft

end Machine

end Lifecycle
