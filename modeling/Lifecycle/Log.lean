import Lifecycle.Refusal
import Lifecycle.Syscall.Call
import Lifecycle.Text.Columns

/-!
# Log records

Everything that the kernel reports while it works. A record says what happened; its level and its
wording are functions of that. The kernel makes every record, and whoever reads a log chooses the
least important level that is still shown.
-/

namespace Lifecycle.Log

/-- How important a record is. -/
inductive Level where
  | error
  | warn
  | info
  | debug
  | trace
  deriving DecidableEq, Repr

namespace Level

/-- The place of a level, counted from the most important one. -/
def rank : Level → Nat
  | error => 0
  | warn => 1
  | info => 2
  | debug => 3
  | trace => 4

/-- The level as lines of the log show it. -/
def name : Level → String
  | error => "ERROR"
  | warn => "WARN"
  | info => "INFO"
  | debug => "DEBUG"
  | trace => "TRACE"

end Level

/-- Something the kernel reports. -/
inductive Record where
  /-- An address space was built, with so many frames left free. -/
  | loaded (image : String) (pages free : Nat)
  /-- An address space was torn down. -/
  | unloaded (image : String) (pages : Nat)
  /-- The first process was started. -/
  | rootStarted (pid : Pid) (image : String)
  /-- A child was created. -/
  | created (parent : Pid) (image : String) (child : Pid)
  /-- A child was not created. -/
  | notCreated (parent : Pid) (image : String) (cause : ExecError)
  /-- There is no pid left. -/
  | pidSpaceExhausted
  /-- A child was collected. -/
  | collected (parent child : Pid) (termination : Termination)
  /-- A process ended, with so many left running. -/
  | exited (pid : Pid) (termination : Termination) (remaining : Nat)
  /-- A process that cannot end was told to. -/
  | exitIgnored (pid : Pid) (cause : TableError)
  /-- No process runs any more. -/
  | lastExited
  /-- The machine was not halted. -/
  | haltRefused (caller : Pid)
  /-- The machine was halted. -/
  | haltRequested (caller : Pid)
  /-- A system call began. -/
  | entered (caller : Pid) (call : Syscall.Call)
  /-- A system call returned. -/
  | returned (caller : Pid) (number : Syscall.Number) (value : Int32)
  /-- A system call that is not implemented was made. -/
  | unsupported (caller : Pid) (number : Syscall.Number)
  /-- A system call that is not defined was made. -/
  | unknown (caller : Pid) (code : Nat)
  /-- A process ended without a status. -/
  | aborted (caller : Pid)
  /-- How many system calls were made, of defined and of undefined numbers. -/
  | callTotals (total undefined : Nat)
  /-- How often one system call was made. -/
  | callCount (number : Syscall.Number) (count : Nat)
  deriving DecidableEq, Repr

namespace Record

/-- How important the record is. -/
def level : Record → Level
  | pidSpaceExhausted => .error
  | exitIgnored _ _ | unknown _ _ => .warn
  | rootStarted _ _ | lastExited | haltRequested _ | callTotals _ _ | callCount _ _ => .info
  | loaded _ _ _ | unloaded _ _ | created _ _ _ | notCreated _ _ _ | collected _ _ _
  | exited _ _ _ | haltRefused _ | unsupported _ _ | aborted _ => .debug
  | entered _ _ | returned _ _ _ => .trace

/-- The record in words. -/
def text : Record → String
  | loaded image pages free => s!"[LOADER] {image} loaded into {pages} pages ({free} free)"
  | unloaded image pages => s!"[LOADER] {image} unloaded, {pages} pages returned"
  | rootStarted pid image => s!"[PROC] Root process {pid} started from {image}"
  | created parent image child => s!"[PROC] {parent} exec {image} -> pid {child}"
  | notCreated parent image cause => s!"[PROC] {parent} exec {image} failed: " ++ cause.message
  | pidSpaceExhausted => "[PROC] Out of process identifiers, powering off"
  | collected parent child termination => s!"[PROC] {parent} joined {child}: " ++ termination.label
  | exited pid termination remaining =>
    s!"[PROC] {pid} exited with " ++ termination.label ++ s!", {remaining} running"
  | exitIgnored pid cause => s!"[PROC] exit of {pid} ignored: " ++ cause.message
  | lastExited => "[PROC] Last process exited, powering off"
  | haltRefused caller => s!"[PROC] halt from {caller} refused"
  | haltRequested caller => s!"[PROC] Halt requested by {caller}"
  | entered caller call => s!"[SYSCALL] {caller} " ++ call.label
  | returned caller number value =>
    s!"[SYSCALL] {caller} " ++ number.name ++ " = " ++ Numeral.ofInt32 value
  | unsupported caller number => s!"[SYSCALL] {caller} called unsupported " ++ number.name
  | unknown caller code => s!"[SYSCALL] {caller} called unknown syscall {code}"
  | aborted caller => s!"[SYSCALL] {caller} terminated abnormally"
  | callTotals total undefined => s!"[SYSCALL] {total} calls, {undefined} unknown"
  | callCount number count => "[SYSCALL]   " ++ Text.alignLeft 8 number.name ++ s!" {count}"

/-- A record as a line of the log. -/
def line (record : Record) : String := record.level.name ++ " " ++ record.text

end Record

/-- The lines of a log whose level is at least as important as `threshold`; without one, none. -/
def lines (threshold : Option Level) (records : List Record) : List String :=
  match threshold with
  | none => []
  | some least =>
    (records.filter fun record => decide (record.level.rank ≤ least.rank)).map Record.line

end Lifecycle.Log
