import Lifecycle.Loader
import Lifecycle.ProcessTable
import Lifecycle.WaitQueue

/-!
# Kernel

Creating, collecting and ending processes, and halting the machine, on top of the process table, the
wait queue and the loader.

The kernel does not run processes. Where it needs the execution engine it stops and says so: creating
a process is `prepare`, then the engine starts the process, then `conclude`; waiting for a child is
`poll`, repeated whenever the engine lets the caller look again. Every operation answers with the
kernel it leaves and with its effects, in the order in which they happen.
-/

namespace Lifecycle

/-- Something that a kernel operation makes happen outside the kernel. -/
inductive Effect where
  /-- A record for the log. -/
  | log (record : Log.Record)
  /-- A suspended process may run again. -/
  | wake (pid : Pid)
  /-- The machine stops. -/
  | powerOff (reason : HaltReason)
  deriving DecidableEq, Repr

/-- A process that is ready to be started. -/
structure Launch (E : Type) where
  pid : Pid
  entry : E
  arguments : List String
  deriving DecidableEq, Repr

/-- The state of the kernel. -/
structure Kernel (E : Type) where
  table : ProcessTable
  waiters : WaitQueue
  loader : Loader E
  deriving DecidableEq, Repr

namespace Kernel

variable {E : Type}

/-- The kernel at boot. -/
def boot (config : KernelConfig) (registry : ImageRegistry E) : Kernel E where
  table := .ofMaxPid config.maxPid
  waiters := ∅
  loader := .ofRegistry registry config.physPages config.stackPages

/-- Takes the memory of a process back, if it owned any. -/
def reclaim (kernel : Kernel E) : Option AddressSpace → Kernel E × List Effect
  | none => (kernel, [])
  | some space =>
    ({ kernel with loader := kernel.loader.unload space }, [.log (Loader.unloadedRecord space)])

/-- Undoes the creation of a process and takes its memory back. -/
def abandon (kernel : Kernel E) (pid : Pid) : Kernel E × List Effect :=
  let (space, table) := kernel.table.withdraw pid
  reclaim { kernel with table := table } space

/--
Creates a process below `parent`, up to the point where it has to be started. If that fails, nothing
stays behind; if no pid is left, the machine is told to power off.
-/
def prepare (kernel : Kernel E) (parent : Option Pid) (name : String) (arguments : List String) :
    Except ExecError (Launch E) × Kernel E × List Effect :=
  match kernel.table.reserve parent with
  | .error .pidSpaceExhausted =>
    (.error .pidSpaceExhausted, kernel, [.log .pidSpaceExhausted, .powerOff .pidSpaceExhausted])
  | .error _ => (.error .noSuchParent, kernel, [])
  | .ok (pid, table) =>
    match kernel.loader.load name arguments with
    | .error cause =>
      (.error (.load cause), abandon { kernel with table := table } pid)
    | .ok (loaded, loader) =>
      let report : Effect := .log (loader.loadedRecord loaded.space)
      match table.activate pid loaded.space with
      | .ok table =>
        (.ok ⟨pid, loaded.entry, loaded.space.arguments⟩,
          { kernel with table := table, loader := loader }, [report])
      | .error space =>
        let (kernel, reclaimed) := reclaim { kernel with table := table, loader := loader } space
        let (kernel, abandoned) := kernel.abandon pid
        (.error .noSuchParent, kernel, report :: reclaimed ++ abandoned)

/-- Ends the creation of a process after the engine was told to start it. -/
def conclude (kernel : Kernel E) (pid : Pid) (refusal : Option StartError) :
    Except ExecError Pid × Kernel E × List Effect :=
  match refusal with
  | none => (.ok pid, kernel, [])
  | some cause => (.error (.start cause), kernel.abandon pid)

/-- What is reported of the creation of a process below `parent`. -/
def creationRecords (parent : Option Pid) (name : String) :
    Except ExecError Pid → List Effect :=
  fun result =>
    match parent, result with
    | none, .ok pid => [.log (.rootStarted pid name)]
    | none, .error _ => []
    | some caller, .ok pid => [.log (.created caller name pid)]
    | some caller, .error cause => [.log (.notCreated caller name cause)]

/--
Looks whether `caller` can collect `target`; `none` means that it has to wait. The caller is in the
wait queue before it looks, so that an exit in between wakes it, and leaves the queue with a result.
-/
def poll (kernel : Kernel E) (caller target : Pid) :
    Option (Except JoinError Termination) × Kernel E × List Effect :=
  let waiting := kernel.waiters.add target caller
  let (collection, table) := kernel.table.collect caller target
  match collection with
  | .stillRunning => (none, { kernel with table := table, waiters := waiting }, [])
  | .notAChild =>
    (some (.error .notAChild),
      { kernel with table := table, waiters := waiting.remove target caller }, [])
  | .completed termination =>
    (some (.ok termination),
      { kernel with table := table, waiters := waiting.remove target caller },
      [.log (.collected caller target termination)])

/--
Ends `caller`; without a status it ended abnormally. Its memory is taken back, whoever waits for it
is woken, and when no process runs any more the machine powers off.
-/
def exit (kernel : Kernel E) (caller : Pid) (status : Option Int32) : Kernel E × List Effect :=
  match kernel.table.terminate caller status with
  | .error cause => (kernel, [.log (.exitIgnored caller cause)])
  | .ok (departure, table) =>
    let (kernel, reclaimed) := reclaim { kernel with table := table } departure.space
    let (waiting, waiters) := kernel.waiters.takeAll caller
    let last : List Effect :=
      if departure.remaining = 0 then [.log .lastExited, .powerOff .allExited] else []
    ({ kernel with waiters := waiters },
      reclaimed ++ [.log (.exited caller (.ofStatus status) departure.remaining)] ++
        waiting.map Effect.wake ++ last)

/-- Powers the machine off if `caller` is the only process that runs. -/
def halt (kernel : Kernel E) (caller : Pid) : Except HaltError Unit × Kernel E × List Effect :=
  if kernel.table.isLastRunning caller then
    (.ok (), kernel, [.log (.haltRequested caller), .powerOff (.requested caller)])
  else (.error .notLastProcess, kernel, [.log (.haltRefused caller)])

end Kernel

end Lifecycle
