import Lifecycle.Proofs.EngineRuns

/-!
# Counted and direct calls

A system call can be counted and recorded, or made directly. Nothing that the kernel or the console
does depends on which. This file compares a script with the one in which every call is direct: all
answers are the same, except that the counters differ when they are looked at, and so are the kernel
and the console at the end.

The comparison goes through any two engines that take no notice of the counters and the log. On the
side of the first engine, counting and recording may be done any number of times while the second one
does nothing.
-/

namespace Lifecycle

namespace Engine

open Syscall (Number Reply Stats)

variable {E σ α β : Type} {alike : σ → σ → Prop} {engine direct : Engine E σ} {state twin : σ}

/-- The answers are the same, and the states are alike. -/
structure Agree (alike : σ → σ → Prop) (first second : α × σ) : Prop where
  answer : second.1 = first.1
  alike : alike first.2 second.2

theorem Agree.exists_eq {first second : α × σ} (agree : Agree alike first second) :
    ∃ answer state twin, first = (answer, state) ∧ second = (answer, twin) ∧ alike state twin := by
  rcases first with ⟨answer, state⟩
  rcases second with ⟨same, twin⟩
  rcases agree with ⟨rfl, alike⟩
  exact ⟨same, state, twin, rfl, rfl, alike⟩

/-- What is made of the answers is the same too. -/
theorem Agree.map {first second : α × σ} (agree : Agree alike first second) (reply : α → β) :
    Agree alike (reply first.1, first.2) (reply second.1, second.2) :=
  ⟨congrArg reply agree.answer, agree.alike⟩

/--
States that are alike stay alike, whatever the engines are told, as long as they are told the same of
the kernel and of the console. Of the counters and the log they may be told different things, and the
first one alone may be told of them.
-/
structure Indifferent (alike : σ → σ → Prop) (engine direct : Engine E σ) : Prop where
  kernel_eq : ∀ {state twin}, alike state twin →
    (direct.system twin).kernel = (engine.system state).kernel
  console_eq : ∀ {state twin}, alike state twin →
    (direct.system twin).console = (engine.system state).console
  settle : ∀ {state twin kernel console} {stats others : Stats} {effects}, alike state twin →
    alike (engine.settle ⟨kernel, console, stats⟩ effects state)
      (direct.settle ⟨kernel, console, others⟩ effects twin)
  settle_alone : ∀ {state twin stats effects}, alike state twin → signals effects = [] →
    alike (engine.settle { engine.system state with stats := stats } effects state) twin
  start : ∀ {state twin} launch, alike state twin →
    Agree alike (engine.start launch state) (direct.start launch twin)
  suspend : ∀ {state twin} pid, alike state twin →
    Agree alike (engine.suspend pid state) (direct.suspend pid twin)
  patience_eq : direct.patience = engine.patience

namespace Indifferent

variable (indifferent : Indifferent alike engine direct) (same : alike state twin)

include indifferent same

theorem onKernel (operation : Kernel E → α × Kernel E × List Effect) :
    Agree alike (engine.onKernel operation state) (direct.onKernel operation twin) := by
  simp only [Engine.onKernel, indifferent.kernel_eq same, indifferent.console_eq same]
  exact ⟨rfl, indifferent.settle same⟩

theorem report (effects : List Effect) :
    alike (engine.report effects state) (direct.report effects twin) := by
  have stored : direct.system twin =
      ⟨(engine.system state).kernel, (engine.system state).console, (direct.system twin).stats⟩ := by
    rw [← indifferent.kernel_eq same, ← indifferent.console_eq same]
  unfold Engine.report
  rw [stored]
  exact indifferent.settle same

theorem setConsole (console : Console) :
    alike (engine.setConsole console state) (direct.setConsole console twin) := by
  simp only [Engine.setConsole, indifferent.kernel_eq same]
  exact indifferent.settle same

theorem setStats (stats others : Stats) :
    alike (engine.setStats stats state) (direct.setStats others twin) := by
  simp only [Engine.setStats, indifferent.kernel_eq same, indifferent.console_eq same]
  exact indifferent.settle same

/-- Counting makes no difference. -/
theorem setStats_alone (stats : Stats) : alike (engine.setStats stats state) twin :=
  indifferent.settle_alone same signals_nil

/-- Recording makes no difference. -/
theorem report_alone (record : Log.Record) : alike (engine.report [.log record] state) twin :=
  indifferent.settle_alone same rfl

/-! ### Calls of the kernel -/

theorem spawn (parent : Option Pid) (name : String) (arguments : List String) :
    Agree alike (engine.spawn parent name arguments state)
      (direct.spawn parent name arguments twin) := by
  rcases (indifferent.onKernel same fun kernel => kernel.prepare parent name arguments).exists_eq
    with ⟨answer, inside, twinInside, begun, twinBegun, opens⟩
  simp only [Engine.spawn, begun, twinBegun]
  cases answer with
  | error cause => exact ⟨rfl, indifferent.report opens _⟩
  | ok launch =>
      rcases (indifferent.start launch opens).exists_eq with
        ⟨refusal, returned, twinReturned, started, twinStarted, starts⟩
      rcases (indifferent.onKernel starts fun kernel =>
          kernel.conclude launch.pid refusal).exists_eq with
        ⟨result, closed, twinClosed, ended, twinEnded, ends⟩
      simp only [started, twinStarted, ended, twinEnded]
      exact ⟨rfl, indifferent.report ends _⟩

theorem await (patience : Nat) (caller target : Pid) :
    Agree alike (engine.await patience caller target state)
      (direct.await patience caller target twin) := by
  induction patience using Nat.strongRecOn generalizing state twin with
  | ind patience ih =>
      rcases (indifferent.onKernel same fun kernel => kernel.poll caller target).exists_eq with
        ⟨answer, inside, twinInside, polled, twinPolled, looks⟩
      unfold Engine.await
      simp only [polled, twinPolled]
      cases answer with
      | some result => exact ⟨rfl, looks⟩
      | none =>
          rcases (indifferent.suspend caller looks).exists_eq with
            ⟨returns, resumed, twinResumed, suspended, twinSuspended, waits⟩
          simp only [suspended, twinSuspended]
          cases returns with
          | false => exact ⟨rfl, waits⟩
          | true =>
              cases patience with
              | zero => exact ⟨rfl, waits⟩
              | succ patience => exact ih patience (Nat.lt_succ_self patience) waits

theorem join (caller target : Pid) :
    Agree alike (engine.join caller target state) (direct.join caller target twin) := by
  unfold Engine.join
  rw [indifferent.patience_eq]
  exact indifferent.await same engine.patience caller target

theorem exit (caller : Pid) (status : Option Int32) :
    alike (engine.exit caller status state) (direct.exit caller status twin) :=
  (indifferent.onKernel same fun kernel => ((), kernel.exit caller status)).alike

theorem halt (caller : Pid) :
    Agree alike (engine.halt caller state) (direct.halt caller twin) :=
  indifferent.onKernel same fun kernel => kernel.halt caller

theorem abort (caller : Pid) : alike (engine.abort caller state) (direct.abort caller twin) :=
  indifferent.exit (indifferent.report same _) caller none

/-! ### System calls -/

theorem read (descriptor : Int32) (buffer : List UInt8) :
    Agree alike (engine.read descriptor buffer state) (direct.read descriptor buffer twin) := by
  unfold Engine.read
  split
  · rw [indifferent.console_eq same]
    exact ⟨rfl, indifferent.setConsole same _⟩
  · exact ⟨rfl, same⟩

theorem write (descriptor : Int32) (bytes : List UInt8) :
    Agree alike (engine.write descriptor bytes state) (direct.write descriptor bytes twin) := by
  unfold Engine.write
  split
  · rw [indifferent.console_eq same]
    exact ⟨rfl, indifferent.setConsole same _⟩
  · exact ⟨rfl, same⟩

theorem perform (caller : Pid) (call : Syscall.Call) :
    Agree alike (engine.perform caller call state) (direct.perform caller call twin) := by
  cases call with
  | halt => exact (indifferent.halt same caller).map fun result => some (Reply.ofHalt result)
  | exit status => exact ⟨rfl, indifferent.exit same caller (some status)⟩
  | exec name arguments =>
      exact (indifferent.spawn same (some caller) name arguments).map fun result =>
        some (Reply.ofExec result)
  | join pid =>
      simp only [Engine.perform]
      cases Pid.ofInt32? pid with
      | none => exact ⟨rfl, same⟩
      | some target => exact (indifferent.join same caller target).map (Option.map Reply.ofJoin)
  | read descriptor buffer => exact (indifferent.read same descriptor buffer).map some
  | write descriptor bytes => exact (indifferent.write same descriptor bytes).map some
  | unsupported number => exact ⟨rfl, indifferent.report same _⟩

/-- A call that is recorded does what the direct one does. -/
theorem trace_perform (caller : Pid) (call : Syscall.Call) :
    Agree alike (engine.trace caller call state) (direct.perform caller call twin) := by
  have entered := indifferent.report_alone same (.entered caller call)
  rcases (indifferent.perform entered caller call).exists_eq with
    ⟨answer, next, twinNext, performed, twinPerformed, left⟩
  simp only [Engine.trace, performed, twinPerformed]
  cases answer with
  | none => exact ⟨rfl, left⟩
  | some reply => exact ⟨rfl, indifferent.report_alone left _⟩

theorem handle_perform (caller : Pid) (call : Syscall.Call) :
    Agree alike (engine.handle caller call state) (direct.perform caller call twin) :=
  indifferent.trace_perform (indifferent.setStats_alone same _) caller call

theorem trace (caller : Pid) (call : Syscall.Call) :
    Agree alike (engine.trace caller call state) (direct.trace caller call twin) := by
  have entered := indifferent.report same [.log (.entered caller call)]
  rcases (indifferent.perform entered caller call).exists_eq with
    ⟨answer, next, twinNext, performed, twinPerformed, left⟩
  simp only [Engine.trace, performed, twinPerformed]
  cases answer with
  | none => exact ⟨rfl, left⟩
  | some reply => exact ⟨rfl, indifferent.report left _⟩

theorem handle_trace (caller : Pid) (call : Syscall.Call) :
    Agree alike (engine.handle caller call state) (direct.trace caller call twin) :=
  indifferent.trace (indifferent.setStats_alone same _) caller call

theorem refuseUnknown (caller : Pid) (code : Nat) :
    Agree alike (engine.refuseUnknown caller code state) (direct.refuseUnknown caller code twin) :=
  ⟨rfl, indifferent.report same _⟩

theorem handleUnknown_refuseUnknown (caller : Pid) (code : Nat) :
    Agree alike (engine.handleUnknown caller code state)
      (direct.refuseUnknown caller code twin) :=
  indifferent.refuseUnknown (indifferent.setStats_alone same _) caller code

end Indifferent

end Engine

namespace Session

/-! ### Direct scripts -/

/-- The action without counting, and without a record if it is a call that can be made so. -/
def Action.direct : Action → Action
  | .handle caller call => .perform caller call
  | .raw caller code _ => .raw caller code false
  | action => action

mutual

/-- The step in which every call, to any depth, is direct. -/
def Step.direct : Step → Step
  | .mk action refusal during pauses =>
    .mk action.direct refusal (directSteps during) (directPauses pauses)

/-- The steps, each of them direct. -/
def directSteps : List Step → List Step
  | [] => []
  | step :: steps => step.direct :: directSteps steps

/-- The lists of steps, each of them direct. -/
def directPauses : List (List Step) → List (List Step)
  | [] => []
  | steps :: pauses => directSteps steps :: directPauses pauses

end

/-- The answer, except for what the counters were. -/
def Answer.plain : Answer → Answer
  | .stats _ => .stats .zero
  | answer => answer

mutual

/-- The result, except for what the counters were when they were looked at. -/
def StepResult.plain : StepResult → StepResult
  | .mk answer counts events => .mk answer.plain counts (plainEvents events)

/-- The event, with plain results. -/
def Event.plain : Event → Event
  | .start launch during => .start launch (plainResults during)
  | .suspend pid pause => .suspend pid (plainResults pause)
  | .block pid => .block pid
  | .wake pid => .wake pid
  | .powerOff reason => .powerOff reason

/-- The results, each of them plain. -/
def plainResults : List StepResult → List StepResult
  | [] => []
  | result :: results => result.plain :: plainResults results

/-- The events, each of them plain. -/
def plainEvents : List Event → List Event
  | [] => []
  | event :: events => event.plain :: plainEvents events

end

theorem plainEvents_eq_map (events : List Event) : plainEvents events = events.map Event.plain := by
  induction events with
  | nil => rfl
  | cons event events ih => simp [plainEvents, ih]

/-! ### Sessions that are alike -/

end Session

/-- The sessions differ in the counters and the log only. -/
structure Session.Alike (session other : Session) : Prop where
  kernel_eq : other.system.kernel = session.system.kernel
  console_eq : other.system.console = session.system.console

namespace Session

theorem Alike.refl (session : Session) : session.Alike session := ⟨rfl, rfl⟩

theorem Alike.counts_eq {session other : Session} (alike : session.Alike other) :
    other.counts = session.counts := by
  simp only [counts, alike.kernel_eq]

/-- From sessions that are alike, the interludes have the same results and lead to such sessions. -/
def Interlude.Alike (interlude other : Interlude) : Prop :=
  ∀ {session twin : Session}, session.Alike twin →
    plainResults (other twin).1 = plainResults (interlude session).1 ∧
      (interlude session).2.Alike (other twin).2

/-- The scenes differ in the counters and the log only, now and later. -/
structure Scene.Alike (scene other : Scene) : Prop where
  session : scene.session.Alike other.session
  events_eq : plainEvents other.events = plainEvents scene.events
  pauses : List.Forall₂ Interlude.Alike scene.pauses other.pauses

theorem Scene.Alike.carryOut {effects : List Effect} {scene other : Scene}
    (alike : scene.Alike other) :
    (effects.foldl Scene.carryOut scene).Alike (effects.foldl Scene.carryOut other) := by
  induction effects generalizing scene other with
  | nil => exact alike
  | cons effect effects ih =>
      apply ih
      rcases alike with ⟨⟨kernel, console⟩, events, pauses⟩
      cases effect with
      | log record => exact ⟨⟨kernel, console⟩, events, pauses⟩
      | wake pid =>
          exact ⟨⟨kernel, console⟩, congrArg (Event.wake pid :: ·) events, pauses⟩
      | powerOff reason =>
          exact ⟨⟨kernel, console⟩, congrArg (Event.powerOff reason :: ·) events, pauses⟩

theorem Scene.Alike.carryOut_alone {effects : List Effect} {scene other : Scene}
    (alike : scene.Alike other) (calm : signals effects = []) :
    (effects.foldl Scene.carryOut scene).Alike other := by
  induction effects generalizing scene with
  | nil => exact alike
  | cons effect effects ih =>
      cases effect with
      | log record =>
          exact ih ⟨⟨alike.session.kernel_eq, alike.session.console_eq⟩, alike.events_eq,
            alike.pauses⟩ calm
      | wake pid => cases calm
      | powerOff reason => cases calm

theorem indifferent_engine {during other : Interlude} (alike : during.Alike other)
    (refusal : Option StartError) (patience : Nat) :
    Engine.Indifferent Scene.Alike (engine refusal during patience)
      (engine refusal other patience) where
  kernel_eq same := same.session.kernel_eq
  console_eq same := same.session.console_eq
  settle same := Scene.Alike.carryOut ⟨⟨rfl, rfl⟩, same.events_eq, same.pauses⟩
  settle_alone same calm :=
    Scene.Alike.carryOut_alone
      ⟨⟨same.session.kernel_eq, same.session.console_eq⟩, same.events_eq, same.pauses⟩ calm
  start {scene twin} launch same := by
    rcases alike same.session with ⟨results, left⟩
    refine ⟨rfl, left, ?_, same.pauses⟩
    simp [engine, plainEvents, Event.plain, results, same.events_eq]
  suspend {scene twin} pid same := by
    rcases scene with ⟨session, events, pauses⟩
    rcases twin with ⟨twinSession, twinEvents, twinPauses⟩
    rcases same with ⟨same, events, pauses⟩
    cases pauses with
    | nil =>
        refine ⟨rfl, same, ?_, .nil⟩
        exact congrArg (Event.block pid :: ·) events
    | cons first others =>
        rcases first same with ⟨results, left⟩
        refine ⟨rfl, left, ?_, others⟩
        simp only at events
        simp [engine, plainEvents, Event.plain, results, events]
  patience_eq := rfl

theorem answers_plain {α : Type} {first second : α × Scene}
    (agree : Engine.Agree Scene.Alike first second) (answer : α → Answer) :
    (answer second.1).plain = (answer first.1).plain ∧ first.2.Alike second.2 := by
  rw [agree.answer]
  exact ⟨rfl, agree.alike⟩

/-- An action and the direct one answer the same, unless they ask for the counters. -/
theorem act_direct {engine direct : Engine String Scene}
    (indifferent : Engine.Indifferent Scene.Alike engine direct) {scene twin : Scene}
    (same : scene.Alike twin) (action : Action) :
    (act direct action.direct twin).1.plain = (act engine action scene).1.plain ∧
      (act engine action scene).2.Alike (act direct action.direct twin).2 := by
  cases action with
  | boot name arguments =>
      exact answers_plain (indifferent.spawn same none name arguments) .created
  | exec caller name arguments =>
      exact answers_plain (indifferent.spawn same (some caller) name arguments) .created
  | join caller target =>
      exact answers_plain (indifferent.join same caller target) (·.elim .blocked .joined)
  | exit caller status => exact ⟨rfl, indifferent.exit same caller status⟩
  | halt caller => exact answers_plain (indifferent.halt same caller) .halted
  | handle caller call =>
      exact answers_plain (indifferent.handle_perform same caller call)
        (·.elim .blocked (.replied call))
  | perform caller call =>
      exact answers_plain (indifferent.perform same caller call) (·.elim .blocked (.replied call))
  | raw caller code counted =>
      simp only [act, Action.direct]
      cases Syscall.Number.ofCode? code with
      | some number =>
          cases counted with
          | true =>
              exact answers_plain (indifferent.handle_trace same caller (.unsupported number))
                (·.elim .blocked fun reply => .value reply.value)
          | false =>
              exact answers_plain (indifferent.trace same caller (.unsupported number))
                (·.elim .blocked fun reply => .value reply.value)
      | none =>
          cases counted with
          | true =>
              exact answers_plain (indifferent.handleUnknown_refuseUnknown same caller code)
                fun reply => .value reply.value
          | false =>
              exact answers_plain (indifferent.refuseUnknown same caller code)
                fun reply => .value reply.value
  | abort caller => exact ⟨rfl, indifferent.abort same caller⟩
  | input bytes =>
      refine ⟨rfl, ?_⟩
      simp only [act, Action.direct, same.session.console_eq]
      exact indifferent.setConsole same _
  | output => exact ⟨by simp [act, Action.direct, same.session.console_eq], same⟩
  | stats => exact ⟨rfl, same⟩
  | reset => exact ⟨rfl, indifferent.setStats same .zero .zero⟩
  | waitingOn pid => exact ⟨by simp [act, Action.direct, same.session.kernel_eq], same⟩
  | stateOf pid => exact ⟨by simp [act, Action.direct, same.session.kernel_eq], same⟩
  | snapshot => exact ⟨by simp [act, Action.direct, same.session.kernel_eq], same⟩

mutual

theorem runStep_direct (step : Step) {session twin : Session} (same : session.Alike twin) :
    (runStep step.direct twin).1.plain = (runStep step session).1.plain ∧
      (runStep step session).2.Alike (runStep step.direct twin).2 := by
  cases step with
  | mk action refusal during pauses =>
      have interludes := runPauses_direct pauses
      have indifferent := indifferent_engine (runSteps_direct during) refusal
        (runPauses pauses).length
      have scenes : Scene.Alike { session := session, pauses := runPauses pauses }
          { session := twin, pauses := runPauses (directPauses pauses) } :=
        ⟨same, rfl, interludes⟩
      rcases act_direct indifferent scenes action with ⟨answer, left⟩
      simp only [runStep, Step.direct, StepResult.plain, plainEvents_eq_map, List.map_reverse]
      rw [← interludes.length_eq, answer, left.session.counts_eq, ← plainEvents_eq_map,
        left.events_eq, plainEvents_eq_map]
      exact ⟨rfl, left.session⟩

/-- A script and the direct one have the same results, but for the counters, and leave the same. -/
theorem runSteps_direct (steps : List Step) :
    Interlude.Alike (runSteps steps) (runSteps (directSteps steps)) := by
  intro session twin same
  cases steps with
  | nil => exact ⟨rfl, same⟩
  | cons step steps =>
      rcases runStep_direct step same with ⟨result, left⟩
      rcases runSteps_direct steps left with ⟨results, last⟩
      simp only [runSteps, directSteps, plainResults]
      exact ⟨by rw [result, results], last⟩

theorem runPauses_direct (pauses : List (List Step)) :
    List.Forall₂ Interlude.Alike (runPauses pauses) (runPauses (directPauses pauses)) := by
  cases pauses with
  | nil => exact .nil
  | cons steps pauses =>
      rw [runPauses, directPauses, runPauses]
      exact .cons (runSteps_direct steps) (runPauses_direct pauses)

end

/-- Scripts that differ in how calls are made only have the same results, and leave the same. -/
theorem runSteps_alike {steps others : List Step} (same : directSteps others = directSteps steps) :
    Interlude.Alike (runSteps steps) (runSteps others) := by
  intro session twin alike
  rcases runSteps_direct steps alike with ⟨results, ⟨kernel, console⟩⟩
  rcases runSteps_direct others (Alike.refl twin) with ⟨otherResults, ⟨otherKernel, otherConsole⟩⟩
  rw [same] at otherResults otherKernel otherConsole
  exact ⟨otherResults.symm.trans results, otherKernel.symm.trans kernel,
    otherConsole.symm.trans console⟩

end Session

end Lifecycle
