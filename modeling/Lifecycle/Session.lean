import Lifecycle.Engine

/-!
# Kernel sessions

Calls of the kernel made from outside, one after the other and for any caller, over an engine that a
script drives.

A step makes one call. Where the call starts a process, the step says how the engine answers and which
steps run before it does. Where the call suspends its caller, the step gives one list of steps for
each suspension, to be run before the caller looks again; when the lists have run out, the call is
abandoned where it waits. Steps nest to any depth, and each one records what it caused.
-/

namespace Lifecycle.Session

/-- What a step does: it makes a call, or it reaches into the system from outside. -/
inductive Action where
  /-- Boot the first process. -/
  | boot (name : String) (arguments : List String)
  | exec (caller : Pid) (name : String) (arguments : List String)
  | join (caller target : Pid)
  | exit (caller : Pid) (status : Option Int32)
  | halt (caller : Pid)
  /-- A system call, counted and recorded. -/
  | handle (caller : Pid) (call : Syscall.Call)
  /-- A system call, neither counted nor recorded. -/
  | perform (caller : Pid) (call : Syscall.Call)
  /-- A system call of any number, known or not, that is not implemented. -/
  | raw (caller : Pid) (code : Nat) (counted : Bool)
  | abort (caller : Pid)
  /-- Queue console input. -/
  | input (bytes : List UInt8)
  | output
  | stats
  /-- Set all counters of system calls back to zero. -/
  | reset
  | waitingOn (pid : Pid)
  | stateOf (pid : Pid)
  | snapshot
  deriving DecidableEq, Repr

/-- An action, with what is to happen while it lasts. -/
inductive Step where
  /--
  Does `action`. The first process that it starts is refused for `refusal`, if there is one, after the
  steps `during`; the lists `pauses` are run while its caller is suspended, one each time.
  -/
  | mk (action : Action) (refusal : Option StartError) (during : List Step)
      (pauses : List (List Step))

/-- What an action brings. -/
inductive Answer where
  | created (result : Except ExecError Pid)
  | joined (result : Except JoinError Termination)
  | halted (result : Except HaltError Unit)
  /-- What a system call replied. -/
  | replied (call : Syscall.Call) (reply : Syscall.Reply)
  /-- The value of a call by number. -/
  | value (value : Int32)
  /-- The call was abandoned while its caller was suspended. -/
  | blocked
  | done
  | bytes (bytes : List UInt8)
  | stats (stats : Syscall.Stats)
  | count (count : Nat)
  | state (state : Option ProcessState)
  | snapshot (processes : List ProcessSnapshot)

/-- The sizes that a session shows after each step. -/
structure Counts where
  running : Nat
  records : Nat
  nextPid : Nat
  freePages : Nat
  deriving DecidableEq, Repr

mutual

/-- What a step caused at the engine. -/
inductive Event where
  /-- A process was started, or refused, after the results of the steps that ran meanwhile. -/
  | start (launch : Launch String) (during : List StepResult)
  /-- A process was suspended and let look again after these steps. -/
  | suspend (pid : Pid) (pause : List StepResult)
  /-- A process was suspended for good. -/
  | block (pid : Pid)
  | wake (pid : Pid)
  | powerOff (reason : HaltReason)

/-- The answer of a step, the sizes after it and what it caused, in order of completion. -/
inductive StepResult where
  | mk (answer : Answer) (counts : Counts) (events : List Event)

end

end Session

open Session in
/-- A session between two steps. -/
structure Session where
  /-- The system; an image's entry point is a mere name. -/
  system : System String
  /-- The log, the latest record in front. -/
  log : List Log.Record := []

namespace Session

/-- A session that has made no step yet. -/
def boot (config : KernelConfig) (images : List (Image String)) (console : Console) : Session where
  system := .boot config (.ofList images) console

/-- The sizes at this moment. -/
def counts (session : Session) : Counts where
  running := session.system.kernel.table.running
  records := session.system.kernel.table.size
  nextPid := session.system.kernel.table.nextPid
  freePages := session.system.kernel.loader.freePages

/-- Some steps that run while a process is started or suspended. -/
abbrev Interlude := Session → List StepResult × Session

/-- A session in the middle of a step. -/
structure Scene where
  session : Session
  /-- What the step has caused, the latest in front. -/
  events : List Event := []
  /-- What runs during the suspensions that are still to come. -/
  pauses : List Interlude := []

namespace Scene

/-- Carries out one effect: records go to the log, and the others are kept as events. -/
def carryOut (scene : Scene) : Effect → Scene
  | .log record => { scene with session.log := record :: scene.session.log }
  | .wake pid => { scene with events := .wake pid :: scene.events }
  | .powerOff reason => { scene with events := .powerOff reason :: scene.events }

end Scene

/-- The engine of a step: it answers a start as told, and each suspension runs the next pause. -/
def engine (refusal : Option StartError) (during : Interlude) (patience : Nat) :
    Engine String Scene where
  system scene := scene.session.system
  settle system effects scene :=
    effects.foldl Scene.carryOut { scene with session.system := system }
  start launch scene :=
    let (results, session) := during scene.session
    (refusal,
      { scene with session := session, events := .start launch results :: scene.events })
  suspend pid scene :=
    match scene.pauses with
    | [] => (false, { scene with events := .block pid :: scene.events })
    | pause :: pauses =>
      let (results, session) := pause scene.session
      (true,
        { session := session, events := .suspend pid results :: scene.events, pauses := pauses })
  patience := patience

/-- Makes the call of an action over an engine. -/
def act (engine : Engine String Scene) (action : Action) (scene : Scene) : Answer × Scene :=
  match action with
  | .boot name arguments =>
    let (result, scene) := engine.spawn none name arguments scene
    (.created result, scene)
  | .exec caller name arguments =>
    let (result, scene) := engine.spawn (some caller) name arguments scene
    (.created result, scene)
  | .join caller target =>
    let (result, scene) := engine.join caller target scene
    (result.elim .blocked .joined, scene)
  | .exit caller status => (.done, engine.exit caller status scene)
  | .halt caller =>
    let (result, scene) := engine.halt caller scene
    (.halted result, scene)
  | .handle caller call =>
    let (reply, scene) := engine.handle caller call scene
    (reply.elim .blocked (.replied call), scene)
  | .perform caller call =>
    let (reply, scene) := engine.perform caller call scene
    (reply.elim .blocked (.replied call), scene)
  | .raw caller code counted =>
    match Syscall.Number.ofCode? code with
    | some number =>
      let call := Syscall.Call.unsupported number
      let (reply, scene) :=
        if counted then engine.handle caller call scene else engine.trace caller call scene
      (reply.elim .blocked fun reply => .value reply.value, scene)
    | none =>
      let (reply, scene) :=
        if counted then engine.handleUnknown caller code scene
        else engine.refuseUnknown caller code scene
      (.value reply.value, scene)
  | .abort caller => (.done, engine.abort caller scene)
  | .input bytes => (.done, engine.setConsole (scene.session.system.console.push bytes) scene)
  | .output => (.bytes scene.session.system.console.output, scene)
  | .stats => (.stats scene.session.system.stats, scene)
  | .reset => (.done, engine.setStats .zero scene)
  | .waitingOn pid => (.count (scene.session.system.kernel.waiters.countOn pid), scene)
  | .stateOf pid => (.state (scene.session.system.kernel.table.stateOf? pid), scene)
  | .snapshot => (.snapshot scene.session.system.kernel.table.snapshot, scene)

mutual

/-- Makes a step, and gives its result with the session after it. -/
def runStep : Step → Session → StepResult × Session
  | .mk action refusal during pauses => fun session =>
    let interludes := runPauses pauses
    let (answer, scene) :=
      act (engine refusal (runSteps during) interludes.length) action
        { session := session, pauses := interludes }
    (.mk answer scene.session.counts scene.events.reverse, scene.session)

/-- Makes steps one after the other. -/
def runSteps : List Step → Interlude
  | [] => fun session => ([], session)
  | step :: steps => fun session =>
    let (result, session) := runStep step session
    let (results, session) := runSteps steps session
    (result :: results, session)

/-- What to run during each suspension. -/
def runPauses : List (List Step) → List Interlude
  | [] => []
  | steps :: pauses => runSteps steps :: runPauses pauses

end

/-- Makes a step from outside, and takes the records out of the log that it made, in order. -/
def runLogged (session : Session) (step : Step) : StepResult × List Log.Record × Session :=
  let (result, session) := runStep step session
  (result, session.log.reverse, { session with log := [] })

end Session

end Lifecycle
