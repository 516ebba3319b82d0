import Lifecycle.Limits
import Lifecycle.Numeral

/-!
# Processes

Process identifiers, the ways a process ends and the states it passes through.

A pid crosses the system call interface as a 32-bit signed integer. `Pid.ofInt32?` reads one that
came in and `Pid.toInt32?` gives the one that goes out; each is partial, because a negative number
names no process and a pid above `pidLimit` has no such integer.
-/

namespace Lifecycle

@[ext] structure Pid where
  /-- Its place in the order in which pids are handed out, from zero. -/
  number : Nat
  deriving DecidableEq, Repr

namespace Pid

instance : ToString Pid := ⟨fun pid => toString pid.number⟩

/-- The pid of the first process of a machine. -/
def root : Pid := ⟨0⟩

/-- The pid that a system call argument names. -/
def ofInt32? (raw : Int32) : Option Pid :=
  if raw < 0 then none else some ⟨raw.toNatClampNeg⟩

/-- The integer under which a pid is reported to programs. -/
def toInt32? (pid : Pid) : Option Int32 :=
  if pid.number ≤ pidLimit then some (Int32.ofNat pid.number) else none

end Pid

/-- How a process ended. -/
inductive Termination where
  /-- It gave a status, by calling `exit` or by returning from its main function. -/
  | exit (status : Int32)
  /-- It died without a status. -/
  | abnormal
  deriving DecidableEq, Repr

namespace Termination

/-- A termination with the given status; without one it is abnormal. -/
def ofStatus : Option Int32 → Termination
  | some status => exit status
  | none => abnormal

/-- The status that the process gave, if it gave one. -/
def status? : Termination → Option Int32
  | exit status => some status
  | abnormal => none

/-- The termination as log records name it. -/
def label : Termination → String
  | exit status => "Exit(" ++ Numeral.ofInt32 status ++ ")"
  | abnormal => "Abnormal"

end Termination

/-- Where a process stands in its life. -/
inductive ProcessState where
  /-- Its pid is reserved and it has never run. -/
  | embryo
  /-- It is running, or suspended until a child ends. -/
  | running
  /-- It has ended, and its parent has not collected it yet. -/
  | exited (termination : Termination)
  deriving DecidableEq, Repr

namespace ProcessState

/-- The state as error messages name it. -/
def label : ProcessState → String
  | embryo => "Embryo"
  | running => "Running"
  | exited termination => "Exited(" ++ termination.label ++ ")"

end ProcessState

/-- Why a machine stops. -/
inductive HaltReason where
  /-- The last running process asked for it. -/
  | requested (caller : Pid)
  /-- Every process has ended. -/
  | allExited
  /-- There is no pid left to hand out. -/
  | pidSpaceExhausted
  deriving DecidableEq, Repr

namespace HaltReason

/-- The reason in words. -/
def message : HaltReason → String
  | requested caller => s!"halt requested by process {caller}"
  | allExited => "all processes exited"
  | pidSpaceExhausted => "process identifier space exhausted"

end HaltReason

end Lifecycle
