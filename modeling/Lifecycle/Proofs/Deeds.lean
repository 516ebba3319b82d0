import Lifecycle.Proofs.EngineRuns

/-!
# What a session did

A script says what is tried, and its results say what came of it. Read against each other they give
the deeds of a session: each action with its answer and with the deeds that were done meanwhile, to
any depth. In order of time, the deeds leave marks at everything but the kernel, which is at the
console, at the counters of system calls and in the trace.

This file proves that the marks account for all that a session changes there. Nothing happens without
a mark, and each mark shows what was there at its moment. No call that reads or writes is left without
a mark, since each of them returns.
-/

namespace Lifecycle

namespace Session

/-! ### Deeds -/

/-- An action that was carried out, its answer, and the deeds that were done before it was over. -/
inductive Deed where
  | mk (action : Action) (answer : Answer) (meanwhile : List Deed)

/-- A way to read the results of some steps. -/
abbrev Reading := List StepResult → List Deed

/--
Reads what a step caused, behind what was gathered before. The results of a start are read in the
given way, and those of a suspension in the first of the ways that are left.
-/
def Event.gather (reading : Reading) : Event → List Deed × List Reading → List Deed × List Reading
  | .start _ results, (deeds, pauses) => (deeds ++ reading results, pauses)
  | .suspend _ results, (deeds, pause :: pauses) => (deeds ++ pause results, pauses)
  | _, gathered => gathered

mutual

/-- What one step did, by its result. -/
def deed : Step → StepResult → Deed
  | .mk action _ during pauses, .mk answer _ events =>
    .mk action answer
      (events.foldl (fun gathered event => event.gather (deeds during) gathered)
        ([], readings pauses)).1

/-- What some steps did, by their results. -/
def deeds : List Step → Reading
  | [], _ => []
  | _ :: _, [] => []
  | step :: steps, result :: results => deed step result :: deeds steps results

/-- How the results of each suspension are read. -/
def readings : List (List Step) → List Reading
  | [] => []
  | steps :: pauses => deeds steps :: readings pauses

end

/-- The system call that an action makes, if it reads or writes. -/
def Action.transfer? : Action → Option Syscall.Call
  | .handle _ (.read descriptor buffer) => some (.read descriptor buffer)
  | .handle _ (.write descriptor bytes) => some (.write descriptor bytes)
  | .perform _ (.read descriptor buffer) => some (.read descriptor buffer)
  | .perform _ (.write descriptor bytes) => some (.write descriptor bytes)
  | _ => none

mutual

/-- The call returned with a reply if it reads or writes, and so did all such calls meanwhile. -/
def Deed.Served : Deed → Prop
  | .mk action answer meanwhile =>
    (∀ call, action.transfer? = some call → ∃ reply, answer = .replied call reply) ∧
      AllServed meanwhile

/-- All calls that read or write, at any depth, returned with a reply. -/
def AllServed : List Deed → Prop
  | [] => True
  | deed :: deeds => deed.Served ∧ AllServed deeds

end

@[simp]
theorem allServed_nil : AllServed [] := trivial

@[simp]
theorem allServed_append (earlier later : List Deed) :
    AllServed (earlier ++ later) ↔ AllServed earlier ∧ AllServed later := by
  induction earlier with
  | nil => simp
  | cons deed earlier ih => simp only [List.cons_append, AllServed, ih, and_assoc]

/-- What is tried in a step. -/
def Step.action : Step → Action
  | .mk action _ _ _ => action

/-- What was tried. -/
def Deed.action : Deed → Action
  | .mk action _ _ => action

/-- The deeds are those of a script, one for each step, and no read or write is left unanswered. -/
structure Complete (steps : List Step) (deeds : List Deed) : Prop where
  actions : deeds.map Deed.action = steps.map Step.action
  served : AllServed deeds

/-- Reads and writes return with a reply in every engine. -/
theorem exists_reply_of_transfer? {engine : Engine String Scene} {action : Action} {scene : Scene}
    (call : Syscall.Call) (transfers : action.transfer? = some call) :
    ∃ reply, (act engine action scene).1 = .replied call reply := by
  unfold Action.transfer? at transfers
  -- Each of the two calls can be made in two ways; no other action is a transfer.
  split at transfers <;> cases transfers <;> exact ⟨_, rfl⟩

/-! ### Marks -/

/-- Something that shows at the console, at the counters or in the trace. -/
inductive Mark where
  | pushed (bytes : List UInt8)
  /-- Input was read into a buffer, given with the bytes it held. -/
  | read (descriptor : Int32) (buffer : List UInt8) (reply : Syscall.Reply)
  | written (descriptor : Int32) (bytes : List UInt8) (reply : Syscall.Reply)
  /-- The output was looked at. -/
  | shown (output : List UInt8)
  | counted (number : Syscall.Number)
  /-- A call of an undefined number was counted. -/
  | unknown
  | reset
  /-- The counters were looked at. -/
  | asked (stats : Syscall.Stats)
  | entered (caller : Pid) (call : Syscall.Call)
  | returned (caller : Pid) (number : Syscall.Number) (value : Int32)
  deriving DecidableEq

/-- What a call that returns shows at the console. -/
def exchange (reply : Syscall.Reply) : Syscall.Call → List Mark
  | .read descriptor buffer => [.read descriptor buffer reply]
  | .write descriptor bytes => [.written descriptor bytes reply]
  | _ => []

/-- What an action shows before anything else happens. -/
def Action.opening : Action → List Mark
  | .handle caller call => [.counted call.number, .entered caller call]
  | .raw caller code counted =>
    match Syscall.Number.ofCode? code with
    | some number =>
      (if counted then [.counted number] else []) ++ [.entered caller (.unsupported number)]
    | none => if counted then [.unknown] else []
  | .input bytes => [.pushed bytes]
  | .reset => [.reset]
  | _ => []

/-- What an action shows at its end, by its answer. -/
def Action.closing : Action → Answer → List Mark
  | .handle caller call, .replied _ reply =>
    exchange reply call ++ [.returned caller call.number reply.value]
  | .perform _ call, .replied _ reply => exchange reply call
  | .raw caller code _, .value value =>
    match Syscall.Number.ofCode? code with
    | some number => [.returned caller number value]
    | none => []
  | .output, .bytes bytes => [.shown bytes]
  | .stats, .stats counters => [.asked counters]
  | _, _ => []

mutual

/-- The marks of a deed, around those of what was done meanwhile. -/
def Deed.marks : Deed → List Mark
  | .mk action answer meanwhile =>
    action.opening ++ marksOf meanwhile ++ action.closing answer

/-- The marks of some deeds in order of time. -/
def marksOf : List Deed → List Mark
  | [] => []
  | deed :: deeds => deed.marks ++ marksOf deeds

end

@[simp]
theorem marksOf_append (earlier later : List Deed) :
    marksOf (earlier ++ later) = marksOf earlier ++ marksOf later := by
  induction earlier with
  | nil => simp [marksOf]
  | cons deed earlier ih => simp [marksOf, ih]

/-! ### Where the marks are left -/

/-- All that a session changes outside the kernel. -/
structure Periphery where
  console : Console
  stats : Syscall.Stats
  /-- The records of system calls, the latest in front. -/
  trace : List Log.Record

/-- The records of the level of traces, the latest in front. -/
def traced (log : List Log.Record) : List Log.Record :=
  log.filter fun record => record.level = .trace

end Session

open Session in
/-- The session outside the kernel. -/
def Session.periphery (session : Session) : Periphery where
  console := session.system.console
  stats := session.system.stats
  trace := traced session.log

namespace Session

open Syscall (Number Reply Stats)

namespace Periphery

/-- The mark shows what is there, and what is different afterwards. -/
inductive Shows (before : Periphery) : Mark → Periphery → Prop where
  | pushed {bytes : List UInt8} :
      Shows before (.pushed bytes) { before with console := before.console.push bytes }
  | read {buffer : List UInt8} :
      Shows before
        (.read inputDescriptor buffer
          { value := Reply.countValue (before.console.read buffer).1
            buffer := (before.console.read buffer).2.1 })
        { before with console := (before.console.read buffer).2.2 }
  | notRead {descriptor : Int32} {buffer : List UInt8} (other : descriptor ≠ inputDescriptor) :
      Shows before (.read descriptor buffer { value := -1, buffer := buffer }) before
  | written {bytes : List UInt8} :
      Shows before
        (.written outputDescriptor bytes
          (.ofValue (Reply.countValue (before.console.write bytes).1)))
        { before with console := (before.console.write bytes).2 }
  | notWritten {descriptor : Int32} {bytes : List UInt8} (other : descriptor ≠ outputDescriptor) :
      Shows before (.written descriptor bytes .failure) before
  | shown : Shows before (.shown before.console.output) before
  | counted {number : Number} :
      Shows before (.counted number) { before with stats := before.stats.record number }
  | unknown : Shows before .unknown { before with stats := before.stats.recordUnknown }
  | reset : Shows before .reset { before with stats := .zero }
  | asked : Shows before (.asked before.stats) before
  | entered {caller : Pid} {call : Syscall.Call} :
      Shows before (.entered caller call)
        { before with trace := .entered caller call :: before.trace }
  | returned {caller : Pid} {number : Number} {value : Int32} :
      Shows before (.returned caller number value)
        { before with trace := .returned caller number value :: before.trace }

/-- The marks show, one after the other, all that is different afterwards. -/
inductive Run : Periphery → List Mark → Periphery → Prop where
  | nil {periphery : Periphery} : Run periphery [] periphery
  | cons {before middle after : Periphery} {mark : Mark} {marks : List Mark}
      (shows : before.Shows mark middle) (run : Run middle marks after) :
      Run before (mark :: marks) after

namespace Run

variable {before middle after : Periphery} {mark : Mark} {marks earlier later : List Mark}

theorem single (shows : before.Shows mark after) : before.Run [mark] after := .cons shows .nil

theorem append (first : before.Run earlier middle) (second : middle.Run later after) :
    before.Run (earlier ++ later) after := by
  induction first with
  | nil => exact second
  | cons shows _ ih => exact .cons shows (ih second)

/-- Where one mark follows another, there is a moment between them. -/
theorem split (run : before.Run (earlier ++ later) after) :
    ∃ middle, before.Run earlier middle ∧ middle.Run later after := by
  induction earlier generalizing before with
  | nil => exact ⟨before, .nil, run⟩
  | cons mark earlier ih =>
      cases run with
      | cons shows run =>
          rcases ih run with ⟨middle, first, second⟩
          exact ⟨middle, .cons shows first, second⟩

/-- A mark is left between two moments. -/
theorem split_cons (run : before.Run (earlier ++ mark :: later) after) :
    ∃ middle next, before.Run earlier middle ∧ middle.Shows mark next ∧ next.Run later after := by
  rcases run.split with ⟨middle, first, second⟩
  cases second with
  | cons shows rest => exact ⟨middle, _, first, shows, rest⟩

end Run

end Periphery

/-! ### Steps and their marks -/

/-- The results of the interlude, read in this way, show all that it changes and leave no gap. -/
structure Reading.Explains (reading : Reading) (interlude : Interlude) : Prop where
  run : ∀ session : Session, session.periphery.Run (marksOf (reading (interlude session).1))
    (interlude session).2.periphery
  served : ∀ session, AllServed (reading (interlude session).1)

namespace Scene

section Reading

variable (reading : Reading) (pauses : List Reading)

/-- What has happened in the scene, and how the suspensions that are still to come are read. -/
def gathered (scene : Scene) : List Deed × List Reading :=
  scene.events.foldr (Event.gather reading) ([], pauses)

/-- The pauses that are still to come are explained by the ways to read them. -/
def Legible (scene : Scene) : Prop :=
  List.Forall₂ Reading.Explains (scene.gathered reading pauses).2 scene.pauses

/-- The marks show all the difference between two scenes, and nothing else happened meanwhile. -/
structure Shows (scene : Scene) (marks : List Mark) (next : Scene) : Prop where
  gathered_eq : next.gathered reading pauses = scene.gathered reading pauses
  pauses_eq : next.pauses = scene.pauses
  run : scene.session.periphery.Run marks next.session.periphery

/-- Together with the marks of what happened meanwhile, those at the beginning and at the end do. -/
def Leads (scene : Scene) (opening closing : List Mark) (next : Scene) : Prop :=
  scene.Legible reading pauses →
    next.Legible reading pauses ∧ ∃ meanwhile, AllServed meanwhile ∧
      (next.gathered reading pauses).1 = (scene.gathered reading pauses).1 ++ meanwhile ∧
        scene.session.periphery.Run (opening ++ marksOf meanwhile ++ closing)
          next.session.periphery

end Reading

variable {reading : Reading} {pauses : List Reading} {scene middle next : Scene}
  {marks opening closing : List Mark}

theorem Leads.refl (scene : Scene) : scene.Leads reading pauses [] [] scene := by
  intro legible
  exact ⟨legible, [], allServed_nil, (List.append_nil _).symm, .nil⟩

theorem Leads.trans (first : scene.Leads reading pauses [] [] middle)
    (second : middle.Leads reading pauses [] [] next) :
    scene.Leads reading pauses [] [] next := by
  intro legible
  rcases first legible with ⟨legible, earlier, served, grown, run⟩
  rcases second legible with ⟨legible, later, servedAgain, grownAgain, runOn⟩
  refine ⟨legible, earlier ++ later, ?_, ?_, ?_⟩
  · exact (allServed_append earlier later).mpr ⟨served, servedAgain⟩
  · rw [grownAgain, grown, List.append_assoc]
  · simpa using run.append runOn

theorem Shows.leads (shows : scene.Shows reading pauses marks next) :
    scene.Leads reading pauses marks [] next := by
  intro legible
  refine ⟨?_, [], allServed_nil, ?_, ?_⟩
  · simpa only [Legible, shows.gathered_eq, shows.pauses_eq] using legible
  · rw [shows.gathered_eq, List.append_nil]
  · simpa [marksOf] using shows.run

theorem Shows.trans_leads (shows : scene.Shows reading pauses marks middle)
    (leads : middle.Leads reading pauses opening closing next) :
    scene.Leads reading pauses (marks ++ opening) closing next := by
  intro legible
  rcases shows.leads legible with ⟨legible, _⟩
  rcases leads legible with ⟨legible, meanwhile, served, grown, run⟩
  refine ⟨legible, meanwhile, served, ?_, ?_⟩
  · rw [grown, shows.gathered_eq]
  · simpa using shows.run.append run

theorem Leads.trans_shows (leads : scene.Leads reading pauses opening closing middle)
    (shows : middle.Shows reading pauses marks next) :
    scene.Leads reading pauses opening (closing ++ marks) next := by
  intro legible
  rcases leads legible with ⟨legible, meanwhile, served, grown, run⟩
  refine ⟨(shows.leads legible).1, meanwhile, served, ?_, ?_⟩
  · rw [shows.gathered_eq, grown]
  · simpa using run.append shows.run

end Scene

/--
Whatever the engine is told leaves marks: storing a system those between its periphery and the old
one, a record its own, and starts and suspensions those of what they run.
-/
structure Observed (reading : Reading) (pauses : List Reading) (engine : Engine String Scene) :
    Prop where
  system_eq : ∀ scene, engine.system scene = scene.session.system
  settle : ∀ {effects system marks} {scene : Scene}, Untraced effects →
    scene.session.periphery.Run marks
      ⟨system.console, system.stats, scene.session.periphery.trace⟩ →
    scene.Shows reading pauses marks (engine.settle system effects scene)
  record : ∀ {mark} {record : Log.Record} {scene : Scene}, record.level = .trace →
    scene.session.periphery.Shows mark
      { scene.session.periphery with trace := record :: scene.session.periphery.trace } →
    scene.Shows reading pauses [mark]
      (engine.settle scene.session.system [.log record] scene)
  start : ∀ launch (scene : Scene),
    scene.Leads reading pauses [] [] (engine.start launch scene).2
  suspend : ∀ pid (scene : Scene),
    scene.Leads reading pauses [] [] (engine.suspend pid scene).2

theorem gathered_foldl_carryOut (reading : Reading) (pauses : List Reading)
    (effects : List Effect) (scene : Scene) :
    (effects.foldl Scene.carryOut scene).gathered reading pauses =
      scene.gathered reading pauses := by
  induction effects generalizing scene with
  | nil => rfl
  | cons effect effects ih =>
      rw [List.foldl_cons, ih]
      cases effect <;> rfl

theorem traced_foldl_carryOut {effects : List Effect} (untraced : Untraced effects)
    (scene : Scene) :
    traced (effects.foldl Scene.carryOut scene).session.log = traced scene.session.log := by
  induction effects generalizing scene with
  | nil => rfl
  | cons effect effects ih =>
      rcases untraced_cons.mp untraced with ⟨first, others⟩
      rw [List.foldl_cons, ih others]
      cases effect with
      | log record =>
          have dropped : record.level ≠ .trace := first
          simp [traced, Scene.carryOut, dropped]
      | wake pid => rfl
      | powerOff reason => rfl

/-- The engine of a step is observed, if the steps that it runs are explained. -/
theorem observed_engine {reading : Reading} {during : Interlude}
    (explains : reading.Explains during) (pauses : List Reading) (refusal : Option StartError)
    (patience : Nat) : Observed reading pauses (engine refusal during patience) where
  system_eq scene := rfl
  settle {effects system marks scene} untraced run := by
    refine ⟨gathered_foldl_carryOut reading pauses effects _, (system_foldl_carryOut effects _).2,
      ?_⟩
    have left : ((engine refusal during patience).settle system effects scene).session.periphery =
        ⟨system.console, system.stats, traced scene.session.log⟩ := by
      simp [engine, periphery, traced_foldl_carryOut untraced, (system_foldl_carryOut effects _).1]
    rwa [left]
  record {mark record scene} level shows := by
    refine ⟨rfl, rfl, .single ?_⟩
    simpa [engine, periphery, traced, Scene.carryOut, level] using shows
  start launch scene legible := by
    refine ⟨legible, reading (during scene.session).1, explains.served scene.session, rfl, ?_⟩
    simpa [engine] using explains.run scene.session
  suspend pid scene legible := by
    rcases scene with ⟨session, events, interludes⟩
    rcases gathers : events.foldr (Event.gather reading) ([], pauses) with ⟨deeds, ways⟩
    simp only [Scene.Legible, Scene.gathered, gathers] at legible
    cases legible with
    | nil =>
        refine ⟨?_, [], allServed_nil, ?_, .nil⟩
        · simp [Scene.Legible, Scene.gathered, engine, Event.gather, gathers]
        · simp [Scene.gathered, engine, Event.gather]
    | @cons way interlude ways interludes explains others =>
        refine ⟨?_, way (interlude session).1, explains.served session, ?_, ?_⟩
        · simpa [Scene.Legible, Scene.gathered, engine, Event.gather, gathers] using others
        · simp [Scene.gathered, engine, Event.gather, gathers]
        · simpa [engine] using explains.run session

namespace Observed

variable {reading : Reading} {pauses : List Reading} {engine : Engine String Scene}
  (observed : Observed reading pauses engine) (scene : Scene)

include observed

theorem onKernel {α : Type} {operation : Kernel String → α × Kernel String × List Effect}
    (untraced : ∀ kernel, Untraced (operation kernel).2.2) :
    scene.Shows reading pauses [] (engine.onKernel operation scene).2 := by
  simp only [Engine.onKernel, observed.system_eq]
  exact observed.settle (untraced _) .nil

theorem report {effects : List Effect} (untraced : Untraced effects) :
    scene.Shows reading pauses [] (engine.report effects scene) := by
  simp only [Engine.report, observed.system_eq]
  exact observed.settle untraced .nil

theorem setConsole {console : Console} {mark : Mark}
    (shows : scene.session.periphery.Shows mark
      { scene.session.periphery with console := console }) :
    scene.Shows reading pauses [mark] (engine.setConsole console scene) := by
  simp only [Engine.setConsole, observed.system_eq]
  exact observed.settle untraced_nil (.single shows)

theorem setStats {stats : Stats} {mark : Mark}
    (shows : scene.session.periphery.Shows mark { scene.session.periphery with stats := stats }) :
    scene.Shows reading pauses [mark] (engine.setStats stats scene) := by
  simp only [Engine.setStats, observed.system_eq]
  exact observed.settle untraced_nil (.single shows)

theorem entered (caller : Pid) (call : Syscall.Call) :
    scene.Shows reading pauses [.entered caller call]
      (engine.report [.log (.entered caller call)] scene) := by
  simp only [Engine.report, observed.system_eq]
  exact observed.record rfl .entered

theorem returned (caller : Pid) (number : Number) (value : Int32) :
    scene.Shows reading pauses [.returned caller number value]
      (engine.report [.log (.returned caller number value)] scene) := by
  simp only [Engine.report, observed.system_eq]
  exact observed.record rfl .returned

/-! ### Calls of the kernel -/

theorem spawn (parent : Option Pid) (name : String) (arguments : List String) :
    scene.Leads reading pauses [] [] (engine.spawn parent name arguments scene).2 := by
  have opens := observed.onKernel scene fun kernel =>
    kernel.untraced_prepare parent name arguments
  rcases begun : engine.onKernel (fun kernel => kernel.prepare parent name arguments) scene with
    ⟨answer, inside⟩
  rw [begun] at opens
  simp only [Engine.spawn, begun]
  cases answer with
  | error cause =>
      exact opens.leads.trans_shows
        (observed.report inside (Kernel.untraced_creationRecords parent name (.error cause)))
  | ok launch =>
      have starts := observed.start launch inside
      rcases started : engine.start launch inside with ⟨refusal, returned⟩
      have ends := observed.onKernel returned fun kernel =>
        kernel.untraced_conclude launch.pid refusal
      rcases concluded : engine.onKernel (fun kernel => kernel.conclude launch.pid refusal)
        returned with ⟨result, closed⟩
      rw [started] at starts
      rw [concluded] at ends
      simp only [started, concluded]
      have reports := observed.report closed
        (Kernel.untraced_creationRecords parent name result)
      exact ((opens.trans_leads starts).trans_shows ends).trans_shows reports

theorem await (patience : Nat) (caller target : Pid) :
    scene.Leads reading pauses [] [] (engine.await patience caller target scene).2 := by
  induction patience using Nat.strongRecOn generalizing scene with
  | ind patience ih =>
      have looks := observed.onKernel scene fun kernel => kernel.untraced_poll caller target
      rcases polled : engine.onKernel (fun kernel => kernel.poll caller target) scene with
        ⟨answer, inside⟩
      rw [polled] at looks
      unfold Engine.await
      simp only [polled]
      cases answer with
      | some result => exact looks.leads
      | none =>
          have waits := observed.suspend caller inside
          rcases suspended : engine.suspend caller inside with ⟨returns, resumed⟩
          rw [suspended] at waits
          simp only [suspended]
          have waited := looks.trans_leads waits
          cases returns with
          | false => exact waited
          | true =>
              cases patience with
              | zero => exact waited
              | succ patience => exact waited.trans (ih patience (Nat.lt_succ_self patience) resumed)

theorem exit (caller : Pid) (status : Option Int32) :
    scene.Shows reading pauses [] (engine.exit caller status scene) :=
  observed.onKernel scene fun kernel => kernel.untraced_exit caller status

theorem halt (caller : Pid) :
    scene.Shows reading pauses [] (engine.halt caller scene).2 :=
  observed.onKernel scene fun kernel => kernel.untraced_halt caller

/-! ### System calls -/

theorem read (descriptor : Int32) (buffer : List UInt8) :
    scene.Shows reading pauses [.read descriptor buffer (engine.read descriptor buffer scene).1]
      (engine.read descriptor buffer scene).2 := by
  unfold Engine.read
  split
  · rename_i input
    subst input
    rw [observed.system_eq]
    exact observed.setConsole scene .read
  · rename_i other
    exact ⟨rfl, rfl, .single (.notRead other)⟩

theorem write (descriptor : Int32) (bytes : List UInt8) :
    scene.Shows reading pauses [.written descriptor bytes (engine.write descriptor bytes scene).1]
      (engine.write descriptor bytes scene).2 := by
  unfold Engine.write
  split
  · rename_i output
    subst output
    rw [observed.system_eq]
    exact observed.setConsole scene .written
  · rename_i other
    exact ⟨rfl, rfl, .single (.notWritten other)⟩

theorem perform (caller : Pid) (call : Syscall.Call) :
    scene.Leads reading pauses [] ((engine.perform caller call scene).1.elim [] (exchange · call))
      (engine.perform caller call scene).2 := by
  cases call with
  | halt => exact (observed.halt scene caller).leads
  | exit status => exact (observed.exit scene caller (some status)).leads
  | exec name arguments => exact observed.spawn scene (some caller) name arguments
  | join pid =>
      simp only [Engine.perform]
      split
      · exact Scene.Leads.refl scene
      · rename_i target _
        have waits := observed.await scene engine.patience caller target
        simp only [Engine.join]
        cases (engine.await engine.patience caller target scene).1 <;> exact waits
  | read descriptor buffer =>
      exact (Scene.Leads.refl scene).trans_shows (observed.read scene descriptor buffer)
  | write descriptor bytes =>
      exact (Scene.Leads.refl scene).trans_shows (observed.write scene descriptor bytes)
  | unsupported number =>
      exact (observed.report scene (by simp [Effect.Untraced, Log.Record.level])).leads

/-- The record of the beginning comes first, and that of the end comes last if there is one. -/
theorem trace (caller : Pid) (call : Syscall.Call) :
    scene.Leads reading pauses [.entered caller call]
      ((engine.trace caller call scene).1.elim [] fun reply =>
        exchange reply call ++ [.returned caller call.number reply.value])
      (engine.trace caller call scene).2 := by
  have enters := observed.entered scene caller call
  unfold Engine.trace
  have performs := observed.perform (engine.report [.log (.entered caller call)] scene) caller call
  rcases performed : engine.perform caller call
    (engine.report [.log (.entered caller call)] scene) with ⟨answer, left⟩
  rw [performed] at performs
  simp only [performed]
  cases answer with
  | none => exact enters.trans_leads performs
  | some reply =>
      exact (enters.trans_leads performs).trans_shows
        (observed.returned left caller call.number reply.value)

theorem handle (caller : Pid) (call : Syscall.Call) :
    scene.Leads reading pauses [.counted call.number, .entered caller call]
      ((engine.handle caller call scene).1.elim [] fun reply =>
        exchange reply call ++ [.returned caller call.number reply.value])
      (engine.handle caller call scene).2 := by
  unfold Engine.handle
  rw [observed.system_eq]
  exact (observed.setStats scene .counted).trans_leads (observed.trace _ caller call)

theorem refuseUnknown (caller : Pid) (code : Nat) :
    scene.Shows reading pauses [] (engine.refuseUnknown caller code scene).2 :=
  observed.report scene (by simp [Effect.Untraced, Log.Record.level])

theorem handleUnknown (caller : Pid) (code : Nat) :
    scene.Leads reading pauses [.unknown] [] (engine.handleUnknown caller code scene).2 := by
  unfold Engine.handleUnknown
  rw [observed.system_eq]
  exact (observed.setStats scene .unknown).trans_leads
    (observed.refuseUnknown _ caller code).leads

theorem abort (caller : Pid) :
    scene.Leads reading pauses [] [] (engine.abort caller scene) := by
  have untraced : Untraced [.log (.aborted caller)] := by
    simp [Effect.Untraced, Log.Record.level]
  exact (observed.report scene untraced).trans_leads (observed.exit _ caller none).leads

/-- An action leaves its own marks, around those of the steps that ran meanwhile. -/
theorem act (action : Action) :
    scene.Leads reading pauses action.opening (action.closing (act engine action scene).1)
      (act engine action scene).2 := by
  cases action with
  | boot name arguments => exact observed.spawn scene none name arguments
  | exec caller name arguments => exact observed.spawn scene (some caller) name arguments
  | join caller target =>
      have waits := observed.await scene engine.patience caller target
      exact waits
  | exit caller status => exact (observed.exit scene caller status).leads
  | halt caller => exact (observed.halt scene caller).leads
  | handle caller call =>
      have handles := observed.handle scene caller call
      rcases handled : engine.handle caller call scene with ⟨answer, left⟩
      rw [handled] at handles
      simp only [Session.act, handled]
      cases answer <;> exact handles
  | perform caller call =>
      have performs := observed.perform scene caller call
      rcases performed : engine.perform caller call scene with ⟨answer, left⟩
      rw [performed] at performs
      simp only [Session.act, performed]
      cases answer <;> exact performs
  | raw caller code counted =>
      simp only [Session.act, Action.opening]
      cases known : Number.ofCode? code with
      | some number =>
          cases counted with
          | true =>
              have handles := observed.handle scene caller (.unsupported number)
              rcases handled : engine.handle caller (.unsupported number) scene with ⟨answer, left⟩
              rw [handled] at handles
              simp only [handled]
              cases answer <;>
                simpa [Action.closing, known, exchange, Syscall.Call.number] using handles
          | false =>
              have traces := observed.trace scene caller (.unsupported number)
              rcases traced : engine.trace caller (.unsupported number) scene with ⟨answer, left⟩
              rw [traced] at traces
              simp only [traced]
              cases answer <;>
                simpa [Action.closing, known, exchange, Syscall.Call.number] using traces
      | none =>
          cases counted with
          | true => simpa [Action.closing, known] using observed.handleUnknown scene caller code
          | false =>
              simpa [Action.closing, known] using (observed.refuseUnknown scene caller code).leads
  | abort caller => exact observed.abort scene caller
  | input bytes => exact (observed.setConsole scene .pushed).leads
  | output => exact (Scene.Leads.refl scene).trans_shows ⟨rfl, rfl, .single .shown⟩
  | stats => exact (Scene.Leads.refl scene).trans_shows ⟨rfl, rfl, .single .asked⟩
  | reset => exact (observed.setStats scene .reset).leads
  | waitingOn pid => exact Scene.Leads.refl scene
  | stateOf pid => exact Scene.Leads.refl scene
  | snapshot => exact Scene.Leads.refl scene

end Observed

mutual

theorem run_runStep (step : Step) (session : Session) :
    session.periphery.Run (deed step (runStep step session).1).marks
        (runStep step session).2.periphery ∧
      (deed step (runStep step session).1).Served := by
  cases step with
  | mk action refusal during pauses =>
      have observed := observed_engine (explains_runSteps during) (readings pauses) refusal
        (runPauses pauses).length
      have legible : Scene.Legible (deeds during) (readings pauses)
          { session := session, pauses := runPauses pauses } := explains_runPauses pauses
      rcases observed.act _ action legible with ⟨_, meanwhile, served, gathered, run⟩
      -- Nothing was gathered when the step began.
      have all : _ = meanwhile := gathered
      rw [← all] at run served
      simp only [runStep, deed, Deed.marks, Deed.Served, List.foldl_reverse]
      exact ⟨run, exists_reply_of_transfer?, served⟩

/-- The marks of a script show all that it changes outside the kernel. -/
theorem explains_runSteps (steps : List Step) : (deeds steps).Explains (runSteps steps) := by
  cases steps with
  | nil => exact ⟨fun _ => .nil, fun _ => allServed_nil⟩
  | cons step steps =>
      have later := explains_runSteps steps
      refine ⟨?_, ?_⟩
      · intro session
        rw [runSteps, deeds, marksOf]
        exact (run_runStep step session).1.append (later.run _)
      · intro session
        rw [runSteps, deeds, AllServed]
        exact ⟨(run_runStep step session).2, later.served _⟩

theorem explains_runPauses (pauses : List (List Step)) :
    List.Forall₂ Reading.Explains (readings pauses) (runPauses pauses) := by
  cases pauses with
  | nil => exact .nil
  | cons steps pauses =>
      rw [readings, runPauses]
      exact .cons (explains_runSteps steps) (explains_runPauses pauses)

end

theorem actions_runSteps (steps : List Step) (session : Session) :
    (deeds steps (runSteps steps session).1).map Deed.action = steps.map Step.action := by
  induction steps generalizing session with
  | nil => rfl
  | cons step steps ih =>
      rcases step with ⟨action, refusal, during, pauses⟩
      rw [runSteps, deeds, List.map_cons, List.map_cons, ih]
      rfl

theorem complete_runSteps (steps : List Step) (session : Session) :
    Complete steps (deeds steps (runSteps steps session).1) :=
  ⟨actions_runSteps steps session, (explains_runSteps steps).served session⟩

end Session

end Lifecycle
