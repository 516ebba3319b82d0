import Lifecycle.Process

/-!
# Refusals

Every reason for which the loader, the process table, the execution engine or the kernel turns a
request down, one inductive type per service, each with its wording in one function.
-/

namespace Lifecycle

/-- Why an image was not loaded. -/
inductive LoadError where
  /-- The name is empty, too long or without the suffix of executable images. -/
  | notExecutable
  /-- No image of this name is installed. -/
  | notFound
  /-- One argument is longer than any text may be. -/
  | argumentTooLong
  /-- The arguments do not fit in the pages set aside for them. -/
  | argumentsTooLarge
  /-- Fewer frames are free than the process needs. -/
  | outOfMemory
  deriving DecidableEq, Repr

/-- The error in words. -/
def LoadError.message : LoadError → String
  | notExecutable => "not an executable image name"
  | notFound => "image not found"
  | argumentTooLong => "argument too long"
  | argumentsTooLarge => "arguments exceed the argument area"
  | outOfMemory => "out of physical memory"

/-- Why the execution engine did not start a loaded process. -/
inductive StartError where
  /-- Nothing is left to run the process on. -/
  | noExecutionContext
  /-- The machine is powered off. -/
  | machineStopped
  deriving DecidableEq, Repr

/-- The error in words. -/
def StartError.message : StartError → String
  | noExecutionContext => "no execution context available"
  | machineStopped => "machine is stopped"

/-- Why the process table did not carry out a change. -/
inductive TableError where
  /-- Every pid up to the configured highest one is taken. -/
  | pidSpaceExhausted
  /-- There is no record of this process. -/
  | noSuchProcess (pid : Pid)
  /-- The process is not in the state that the change starts from. -/
  | invalidState (pid : Pid) (state : ProcessState)
  deriving DecidableEq, Repr

/-- The error in words. -/
def TableError.message : TableError → String
  | pidSpaceExhausted => "process identifier space exhausted"
  | noSuchProcess pid => s!"no process {pid}"
  | invalidState pid state => s!"process {pid} is in state " ++ state.label

/-- Why no process was created. -/
inductive ExecError where
  /-- There is no pid left; the machine has been told to power off. -/
  | pidSpaceExhausted
  /-- The calling process has no record. -/
  | noSuchParent
  /-- The image was not loaded. -/
  | load (cause : LoadError)
  /-- The loaded process was not started. -/
  | start (cause : StartError)
  deriving DecidableEq, Repr

/-- The error in words. -/
def ExecError.message : ExecError → String
  | pidSpaceExhausted => "process identifier space exhausted"
  | noSuchParent => "calling process not found"
  | load cause => "load failed: " ++ cause.message
  | start cause => "start failed: " ++ cause.message

/-- Why a process was not collected. -/
inductive JoinError where
  /-- The target is not an uncollected child of the caller. -/
  | notAChild
  deriving DecidableEq, Repr

/-- The error in words. -/
def JoinError.message : JoinError → String
  | notAChild => "not an unjoined child of the caller"

/-- Why the machine was not halted. -/
inductive HaltError where
  /-- The caller is not running, or not the only one that is. -/
  | notLastProcess
  deriving DecidableEq, Repr

/-- The error in words. -/
def HaltError.message : HaltError → String
  | notLastProcess => "caller is not the last running process"

end Lifecycle
