import Lifecycle.Proofs.Activity
import Lifecycle.Session

/-!
# Engines make runs

The calls of an engine are sessions in the sense of activities, provided that the engine keeps two
promises: it stores the system that an operation left, and whatever it does while it starts or
suspends a process is itself made of calls that have all returned. Each call then is a run that ends
with all its calls returned and whose last moment reports the answer of the call.

The scripted sessions keep these promises, by induction over the script. So whatever is true of all
activities is true of all scripted sessions.
-/

namespace Lifecycle

namespace Activity

variable {E : Type}

theorem run_append (activity : Activity E) (earlier later : List Move) :
    activity.run (earlier ++ later) =
      ((activity.run earlier).1 ++ ((activity.run earlier).2.run later).1,
        ((activity.run earlier).2.run later).2) := by
  induction earlier generalizing activity with
  | nil => rfl
  | cons move earlier ih =>
      simp only [List.cons_append, run]
      cases activity.step move with
      | none => exact ih activity
      | some moment => simp [ih]

theorem run_cons_of_step {activity : Activity E} {move : Move} {moment : Moment E}
    (fits : activity.step move = some moment) (moves : List Move) :
    activity.run (move :: moves) =
      (moment :: (moment.after.run moves).1, (moment.after.run moves).2) := by
  simp [run, fits]

end Activity

/-! ### Calls that have returned -/

/-- Some calls, all of which return, lead from one kernel to another, whatever else is pending. -/
def Returns {E : Type} (kernel next : Kernel E) : Prop :=
  ∃ moves, ∀ pending, ((Activity.mk kernel pending).run moves).2 = ⟨next, pending⟩

/--
Some moves let the given calls return, and all that are made meanwhile. What happens last is reported
by a property.
-/
def Ends {E : Type} (kernel : Kernel E) (calls : List PendingCall) (next : Kernel E)
    (reported : Happening → Prop) : Prop :=
  ∃ moves, ∀ pending, ∃ history moment,
    (Activity.mk kernel (calls ++ pending)).run moves = (history ++ [moment], ⟨next, pending⟩) ∧
      reported moment.happening

section Composition

variable {E : Type} {kernel middle next : Kernel E} {calls later : List PendingCall}
  {reported : Happening → Prop}

theorem Returns.refl (kernel : Kernel E) : Returns kernel kernel := ⟨[], fun _ => rfl⟩

theorem Returns.trans (first : Returns kernel middle) (second : Returns middle next) :
    Returns kernel next := by
  rcases first with ⟨earlier, toMiddle⟩
  rcases second with ⟨later, toNext⟩
  refine ⟨earlier ++ later, ?_⟩
  intro pending
  rw [Activity.run_append, toMiddle]
  exact toNext pending

theorem Ends.returns (ends : Ends kernel [] next reported) : Returns kernel next := by
  rcases ends with ⟨moves, ends⟩
  refine ⟨moves, ?_⟩
  intro pending
  rcases ends pending with ⟨history, moment, run, _⟩
  rw [List.nil_append] at run
  rw [run]

/-- The last move of a call. -/
theorem Ends.of_step (move : Move)
    (fits : ∀ pending, ∃ moment, (Activity.mk kernel (calls ++ pending)).step move = some moment ∧
      moment.after = ⟨next, pending⟩ ∧ reported moment.happening) :
    Ends kernel calls next reported := by
  refine ⟨[move], ?_⟩
  intro pending
  rcases fits pending with ⟨moment, fits, left, reports⟩
  refine ⟨[], moment, ?_, reports⟩
  rw [Activity.run_cons_of_step fits, left]
  rfl

/-- A move before the last one. -/
theorem Ends.of_step_of_ends (move : Move)
    (fits : ∀ pending, ∃ moment, (Activity.mk kernel (calls ++ pending)).step move = some moment ∧
      moment.after = ⟨middle, later ++ pending⟩)
    (ends : Ends middle later next reported) : Ends kernel calls next reported := by
  rcases ends with ⟨moves, ends⟩
  refine ⟨move :: moves, ?_⟩
  intro pending
  rcases fits pending with ⟨first, fits, left⟩
  rcases ends pending with ⟨history, last, run, reports⟩
  refine ⟨first :: history, last, ?_, reports⟩
  rw [Activity.run_cons_of_step fits, left, run]
  rfl

/-- What the engine does while a call is pending. -/
theorem Ends.of_returns_of_ends (between : Returns kernel middle)
    (ends : Ends middle calls next reported) : Ends kernel calls next reported := by
  rcases between with ⟨earlier, between⟩
  rcases ends with ⟨moves, ends⟩
  refine ⟨earlier ++ moves, ?_⟩
  intro pending
  rcases ends pending with ⟨history, last, run, reports⟩
  refine ⟨((Activity.mk kernel (calls ++ pending)).run earlier).1 ++ history, last, ?_, reports⟩
  rw [Activity.run_append, between, run, List.append_assoc]

end Composition

/-! ### Answers -/

/-- A creation below `parent` returned with a result. -/
inductive Happening.ReportsCreation (parent : Option Pid) :
    Except ExecError Pid → Happening → Prop
  | refused {cause : ExecError} : ReportsCreation parent (.error cause) (.refused parent cause)
  | created {pid : Pid} : ReportsCreation parent (.ok pid) (.created parent pid)
  | withdrawn {pid : Pid} {cause : ExecError} :
      ReportsCreation parent (.error cause) (.withdrawn parent pid cause)

/-- A wait of `caller` for `target` returned with a result, or never returned. -/
inductive Happening.ReportsJoin (caller target : Pid) :
    Option (Except JoinError Termination) → Happening → Prop
  | joined {result : Except JoinError Termination} :
      ReportsJoin caller target (some result) (.joined caller target result)
  | givenUp : ReportsJoin caller target none (.givenUp caller target)

/-! ### Engines that keep their promises -/

/--
In the states that `fit`, the engine stores what it is given, and while it starts or suspends a
process it does nothing but make calls that return.
-/
structure Engine.Lawful {E σ : Type} (engine : Engine E σ) (fit : σ → Prop) : Prop where
  system_settle : ∀ system effects state,
    engine.system (engine.settle system effects state) = system
  fit_settle : ∀ system effects {state}, fit state → fit (engine.settle system effects state)
  start : ∀ launch {state}, fit state →
    Returns (engine.system state).kernel (engine.system (engine.start launch state).2).kernel ∧
      fit (engine.start launch state).2
  suspend : ∀ pid {state}, fit state →
    Returns (engine.system state).kernel (engine.system (engine.suspend pid state).2).kernel ∧
      fit (engine.suspend pid state).2

namespace Engine

variable {E σ : Type} {engine : Engine E σ} {fit : σ → Prop} {state : σ}

/-- The kernel in a state of the engine. -/
def kernel (engine : Engine E σ) (state : σ) : Kernel E := (engine.system state).kernel

/-- The move makes `caller` look for `target`, inside the calls that are still pending then. -/
def BeginsLook (E : Type) (look : Move) (calls : List PendingCall) (caller target : Pid) : Prop :=
  ∀ (kernel : Kernel E) (pending : List PendingCall),
    (Activity.mk kernel (calls ++ pending)).step look =
      some ((Activity.mk kernel (calls ++ pending)).look caller target pending)

theorem beginsLook_join {E : Type} {caller target : Pid} :
    BeginsLook E (.join caller target) [] caller target := fun _ _ => rfl

theorem beginsLook_resume {E : Type} {caller target : Pid} :
    BeginsLook E .resume [.wait caller target] caller target := fun _ _ => rfl

/-- Operations of the kernel make the only difference between two states of the engine. -/
def Leads (engine : Engine E σ) (fit : σ → Prop) (state next : σ) : Prop :=
  Returns (engine.kernel state) (engine.kernel next) ∧ fit next

theorem Leads.refl (fits : fit state) : engine.Leads fit state state := ⟨Returns.refl _, fits⟩

theorem Leads.trans {middle next : σ} (first : engine.Leads fit state middle)
    (second : engine.Leads fit middle next) : engine.Leads fit state next :=
  ⟨first.1.trans second.1, second.2⟩

/-- The process that a creation returns got the pid that was next when the creation began. -/
theorem pid_of_spawn {parent : Option Pid} {name : String} {arguments : List String} {pid : Pid}
    (wellFormed : (engine.kernel state).table.WellFormed)
    (created : (engine.spawn parent name arguments state).1 = .ok pid) :
    pid = ⟨(engine.kernel state).table.nextPid⟩ ∧
      (engine.kernel state).table.nextPid ≤ (engine.kernel state).table.maxPid := by
  rcases prepared : (engine.system state).kernel.prepare parent name arguments with
    ⟨answer, next, effects⟩
  simp only [spawn, onKernel, prepared] at created
  cases answer with
  | error cause => cases created
  | ok launch =>
      rcases Kernel.prepare_eq_ok wellFormed prepared with ⟨_, newest, inRange, _⟩
      simp only at created
      cases refusal : (engine.start launch
          (engine.settle { engine.system state with kernel := next } effects state)).1 with
      | none =>
          rw [refusal] at created
          cases created
          exact ⟨newest, inRange⟩
      | some cause =>
          rw [refusal] at created
          cases created

namespace Lawful

variable (lawful : engine.Lawful fit)

include lawful

theorem onKernel {α : Type} (operation : Kernel E → α × Kernel E × List Effect) (fits : fit state) :
    (engine.onKernel operation state).1 = (operation (engine.kernel state)).1 ∧
      engine.kernel (engine.onKernel operation state).2 = (operation (engine.kernel state)).2.1 ∧
        fit (engine.onKernel operation state).2 := by
  refine ⟨rfl, ?_, ?_⟩
  · simp only [Engine.onKernel, Engine.kernel, lawful.system_settle]
  · exact lawful.fit_settle _ _ fits

theorem report (effects : List Effect) (fits : fit state) :
    engine.kernel (engine.report effects state) = engine.kernel state ∧
      fit (engine.report effects state) := by
  refine ⟨?_, lawful.fit_settle _ _ fits⟩
  simp only [Engine.report, Engine.kernel, lawful.system_settle]

/-- A call that creates a process is a run that reports its result. -/
theorem spawn (parent : Option Pid) (name : String) (arguments : List String) (fits : fit state) :
    Ends (engine.kernel state) [] (engine.kernel (engine.spawn parent name arguments state).2)
        (Happening.ReportsCreation parent (engine.spawn parent name arguments state).1) ∧
      fit (engine.spawn parent name arguments state).2 := by
  rcases prepared : (engine.kernel state).prepare parent name arguments with
    ⟨prepare, opened, effects⟩
  have opens := lawful.onKernel (fun kernel => kernel.prepare parent name arguments) fits
  rcases begun : engine.onKernel (fun kernel => kernel.prepare parent name arguments) state with
    ⟨answer, inside⟩
  simp only [prepared, begun] at opens
  rcases opens with ⟨rfl, left, fitsInside⟩
  simp only [Engine.spawn, begun]
  cases answer with
  | error cause =>
      rcases lawful.report (Kernel.creationRecords parent name (.error cause)) fitsInside with
        ⟨same, fitsNext⟩
      refine ⟨?_, fitsNext⟩
      simp only [same, left]
      apply Ends.of_step (.spawn parent name arguments)
      intro pending
      refine ⟨_, rfl, ?_, ?_⟩
      · simp [Activity.spawn, prepared]
      · simp only [List.nil_append, Activity.spawn, prepared]
        exact .refused
  | ok launch =>
      rcases lawful.start launch fitsInside with ⟨meanwhile, fitsStarted⟩
      rcases started : engine.start launch inside with ⟨refusal, returned⟩
      simp only [started] at meanwhile fitsStarted
      rcases concluded : (engine.kernel returned).conclude launch.pid refusal with
        ⟨conclusion, closed, closing⟩
      have closes := lawful.onKernel (fun kernel => kernel.conclude launch.pid refusal) fitsStarted
      rcases ended : engine.onKernel (fun kernel => kernel.conclude launch.pid refusal) returned with
        ⟨result, final⟩
      simp only [concluded, ended] at closes
      rcases closes with ⟨rfl, leftClosed, fitsFinal⟩
      simp only [started, ended]
      rcases lawful.report (Kernel.creationRecords parent name result) fitsFinal with
        ⟨same, fitsNext⟩
      refine ⟨?_, fitsNext⟩
      simp only [same, leftClosed]
      have calls : ∀ pending : List PendingCall, ∃ moment,
          (Activity.mk (engine.kernel state) ([] ++ pending)).step (.spawn parent name arguments) =
              some moment ∧
            moment.after = ⟨engine.kernel inside, [.creation parent launch.pid] ++ pending⟩ := by
        intro pending
        refine ⟨_, rfl, ?_⟩
        simp [Activity.spawn, prepared, left]
      apply Ends.of_step_of_ends (.spawn parent name arguments) calls
      apply Ends.of_returns_of_ends meanwhile
      apply Ends.of_step (.answer refusal)
      intro pending
      have answers : (engine.system returned).kernel.conclude launch.pid refusal =
          (result, closed, closing) := concluded
      refine ⟨_, rfl, ?_, ?_⟩
      · cases result <;> simp [Activity.answer, answers]
      · cases result with
        | error cause =>
            simp only [Activity.answer, answers]
            exact .withdrawn
        | ok pid =>
            simp only [Activity.answer, answers]
            exact .created

/-- A wait from its first look on, or from a later one, is a run that reports its result. -/
theorem await (patience : Nat) {caller target : Pid} {look : Move} {calls : List PendingCall}
    (looks : BeginsLook E look calls caller target) (fits : fit state) :
    Ends (engine.kernel state) calls (engine.kernel (engine.await patience caller target state).2)
        (Happening.ReportsJoin caller target (engine.await patience caller target state).1) ∧
      fit (engine.await patience caller target state).2 := by
  -- Each look after the first one is made by a resumption, with the wait pending.
  induction patience using Nat.strongRecOn generalizing state look calls with
  | ind patience ih =>
      rcases polled : (engine.kernel state).poll caller target with ⟨poll, opened, effects⟩
      have opens := lawful.onKernel (fun kernel => kernel.poll caller target) fits
      rcases begun : engine.onKernel (fun kernel => kernel.poll caller target) state with
        ⟨answer, inside⟩
      simp only [polled, begun] at opens
      rcases opens with ⟨rfl, left, fitsInside⟩
      unfold Engine.await
      simp only [begun]
      cases answer with
      | some result =>
          refine ⟨?_, fitsInside⟩
          apply Ends.of_step look
          intro pending
          refine ⟨_, looks _ pending, ?_, ?_⟩
          · simp [Activity.look, polled, left]
          · simp only [Activity.look, polled]
            exact .joined
      | none =>
          rcases lawful.suspend caller fitsInside with ⟨meanwhile, fitsResumed⟩
          rcases suspended : engine.suspend caller inside with ⟨returns, resumed⟩
          simp only [suspended] at meanwhile fitsResumed
          have waits : ∀ pending : List PendingCall, ∃ moment,
              (Activity.mk (engine.kernel state) (calls ++ pending)).step look = some moment ∧
                moment.after = ⟨engine.kernel inside, [.wait caller target] ++ pending⟩ := by
            intro pending
            refine ⟨_, looks _ pending, ?_⟩
            simp [Activity.look, polled, left]
          have givesUp : Ends (engine.kernel state) calls (engine.kernel resumed)
              (Happening.ReportsJoin caller target none) := by
            apply Ends.of_step_of_ends look waits
            apply Ends.of_returns_of_ends meanwhile
            apply Ends.of_step .giveUp
            intro pending
            exact ⟨_, rfl, rfl, .givenUp⟩
          simp only [suspended]
          cases returns with
          | false => exact ⟨givesUp, fitsResumed⟩
          | true =>
              cases patience with
              | zero => exact ⟨givesUp, fitsResumed⟩
              | succ patience =>
                  rcases ih patience (Nat.lt_succ_self patience) beginsLook_resume fitsResumed with
                    ⟨ends, fitsNext⟩
                  refine ⟨?_, fitsNext⟩
                  apply Ends.of_step_of_ends look waits
                  exact Ends.of_returns_of_ends meanwhile ends

theorem join (caller target : Pid) (fits : fit state) :
    Ends (engine.kernel state) [] (engine.kernel (engine.join caller target state).2)
        (Happening.ReportsJoin caller target (engine.join caller target state).1) ∧
      fit (engine.join caller target state).2 :=
  lawful.await engine.patience beginsLook_join fits

theorem exit (caller : Pid) (status : Option Int32) (fits : fit state) :
    Ends (engine.kernel state) [] (engine.kernel (engine.exit caller status state))
        (fun happening => happening = .exited caller status) ∧
      fit (engine.exit caller status state) := by
  rcases lawful.onKernel (fun kernel => ((), kernel.exit caller status)) fits with
    ⟨_, left, fitsNext⟩
  refine ⟨?_, fitsNext⟩
  apply Ends.of_step (.exit caller status)
  intro pending
  refine ⟨_, rfl, ?_, rfl⟩
  simp only [Engine.exit, left]
  rfl

theorem halt (caller : Pid) (fits : fit state) :
    Ends (engine.kernel state) [] (engine.kernel (engine.halt caller state).2)
        (fun happening => happening = .halted caller (engine.halt caller state).1) ∧
      fit (engine.halt caller state).2 := by
  rcases lawful.onKernel (fun kernel => kernel.halt caller) fits with ⟨answer, left, fitsNext⟩
  refine ⟨?_, fitsNext⟩
  apply Ends.of_step (.halt caller)
  intro pending
  have same : (engine.halt caller state).1 = ((engine.kernel state).halt caller).1 := answer
  refine ⟨_, rfl, ?_, ?_⟩
  · simp only [Engine.halt, left]
    rfl
  · rw [same]
    rfl

/-! ### System calls -/

theorem leads_settle {system : System E} {effects : List Effect}
    (same : system.kernel = engine.kernel state) (fits : fit state) :
    engine.Leads fit state (engine.settle system effects state) := by
  refine ⟨?_, lawful.fit_settle _ _ fits⟩
  simp only [Engine.kernel, lawful.system_settle]
  rw [same]
  exact Returns.refl _

theorem leads_setConsole (console : Console) (fits : fit state) :
    engine.Leads fit state (engine.setConsole console state) :=
  lawful.leads_settle rfl fits

theorem leads_setStats (stats : Syscall.Stats) (fits : fit state) :
    engine.Leads fit state (engine.setStats stats state) :=
  lawful.leads_settle rfl fits

theorem leads_report (effects : List Effect) (fits : fit state) :
    engine.Leads fit state (engine.report effects state) :=
  lawful.leads_settle rfl fits

theorem leads_spawn (parent : Option Pid) (name : String) (arguments : List String)
    (fits : fit state) : engine.Leads fit state (engine.spawn parent name arguments state).2 := by
  rcases lawful.spawn parent name arguments fits with ⟨ends, fitsNext⟩
  exact ⟨ends.returns, fitsNext⟩

theorem leads_join (caller target : Pid) (fits : fit state) :
    engine.Leads fit state (engine.join caller target state).2 := by
  rcases lawful.join caller target fits with ⟨ends, fitsNext⟩
  exact ⟨ends.returns, fitsNext⟩

theorem leads_exit (caller : Pid) (status : Option Int32) (fits : fit state) :
    engine.Leads fit state (engine.exit caller status state) := by
  rcases lawful.exit caller status fits with ⟨ends, fitsNext⟩
  exact ⟨ends.returns, fitsNext⟩

theorem leads_halt (caller : Pid) (fits : fit state) :
    engine.Leads fit state (engine.halt caller state).2 := by
  rcases lawful.halt caller fits with ⟨ends, fitsNext⟩
  exact ⟨ends.returns, fitsNext⟩

theorem leads_abort (caller : Pid) (fits : fit state) :
    engine.Leads fit state (engine.abort caller state) := by
  have reported := lawful.leads_report [.log (.aborted caller)] fits
  exact reported.trans (lawful.leads_exit caller none reported.2)

theorem leads_perform (caller : Pid) (call : Syscall.Call) (fits : fit state) :
    engine.Leads fit state (engine.perform caller call state).2 := by
  cases call with
  | halt => exact lawful.leads_halt caller fits
  | exit status => exact lawful.leads_exit caller (some status) fits
  | exec name arguments => exact lawful.leads_spawn (some caller) name arguments fits
  | join pid =>
      simp only [Engine.perform]
      split
      · exact Leads.refl fits
      · rename_i target _
        exact lawful.leads_join caller target fits
  | read descriptor buffer =>
      simp only [Engine.perform, Engine.read]
      split
      · exact lawful.leads_setConsole _ fits
      · exact Leads.refl fits
  | write descriptor bytes =>
      simp only [Engine.perform, Engine.write]
      split
      · exact lawful.leads_setConsole _ fits
      · exact Leads.refl fits
  | unsupported number => exact lawful.leads_report _ fits

theorem leads_trace (caller : Pid) (call : Syscall.Call) (fits : fit state) :
    engine.Leads fit state (engine.trace caller call state).2 := by
  have reported := lawful.leads_report [.log (.entered caller call)] fits
  have performed := reported.trans (lawful.leads_perform caller call reported.2)
  simp only [Engine.trace]
  split
  · rename_i stopped next answer
    rw [answer] at performed
    exact performed
  · rename_i reply next answer
    rw [answer] at performed
    exact performed.trans (lawful.leads_report _ performed.2)

theorem leads_handle (caller : Pid) (call : Syscall.Call) (fits : fit state) :
    engine.Leads fit state (engine.handle caller call state).2 := by
  have counted := lawful.leads_setStats ((engine.system state).stats.record call.number) fits
  exact counted.trans (lawful.leads_trace caller call counted.2)

theorem leads_handleUnknown (caller : Pid) (code : Nat) (fits : fit state) :
    engine.Leads fit state (engine.handleUnknown caller code state).2 := by
  have counted := lawful.leads_setStats (engine.system state).stats.recordUnknown fits
  exact counted.trans (lawful.leads_report _ counted.2)

end Lawful

end Engine

/-! ### Scripted sessions -/

namespace Session

/-- The interlude makes calls that return. -/
def Interlude.Returns (interlude : Interlude) : Prop :=
  ∀ session, Lifecycle.Returns session.system.kernel (interlude session).2.system.kernel

/-- All pauses that are still to come make calls that return. -/
def Scene.Fit (scene : Scene) : Prop := ∀ pause ∈ scene.pauses, pause.Returns

@[simp]
theorem system_foldl_carryOut (effects : List Effect) (scene : Scene) :
    (effects.foldl Scene.carryOut scene).session.system = scene.session.system ∧
      (effects.foldl Scene.carryOut scene).pauses = scene.pauses := by
  induction effects generalizing scene with
  | nil => exact ⟨rfl, rfl⟩
  | cons effect effects ih =>
      rcases ih (scene.carryOut effect) with ⟨system, pauses⟩
      rw [List.foldl_cons, system, pauses]
      cases effect <;> exact ⟨rfl, rfl⟩

theorem lawful_engine (refusal : Option StartError) {during : Interlude} (patience : Nat)
    (returns : during.Returns) : (engine refusal during patience).Lawful Scene.Fit where
  system_settle system effects scene := (system_foldl_carryOut effects _).1
  fit_settle system effects scene fits := by
    intro pause member
    apply fits pause
    simpa [engine, (system_foldl_carryOut effects _).2] using member
  start launch scene fits := ⟨returns scene.session, fits⟩
  suspend pid scene fits := by
    rcases scene with ⟨session, events, pauses⟩
    cases pauses with
    | nil => exact ⟨Lifecycle.Returns.refl _, fits⟩
    | cons pause pauses =>
        refine ⟨fits pause List.mem_cons_self session, ?_⟩
        intro other member
        exact fits other (List.mem_cons_of_mem pause member)

theorem leads_act {engine : Engine String Scene} (lawful : engine.Lawful Scene.Fit)
    (action : Action) {scene : Scene} (fits : scene.Fit) :
    engine.Leads Scene.Fit scene (act engine action scene).2 := by
  cases action with
  | boot name arguments => exact lawful.leads_spawn none name arguments fits
  | exec caller name arguments => exact lawful.leads_spawn (some caller) name arguments fits
  | join caller target => exact lawful.leads_join caller target fits
  | exit caller status => exact lawful.leads_exit caller status fits
  | halt caller => exact lawful.leads_halt caller fits
  | handle caller call => exact lawful.leads_handle caller call fits
  | perform caller call => exact lawful.leads_perform caller call fits
  | raw caller code counted =>
      simp only [act]
      split
      · rename_i number _
        cases counted with
        | true => exact lawful.leads_handle caller (.unsupported number) fits
        | false => exact lawful.leads_trace caller (.unsupported number) fits
      · cases counted with
        | true => exact lawful.leads_handleUnknown caller code fits
        | false => exact lawful.leads_report _ fits
  | abort caller => exact lawful.leads_abort caller fits
  | input bytes => exact lawful.leads_setConsole _ fits
  | output => exact Engine.Leads.refl fits
  | stats => exact Engine.Leads.refl fits
  | reset => exact lawful.leads_setStats _ fits
  | waitingOn pid => exact Engine.Leads.refl fits
  | stateOf pid => exact Engine.Leads.refl fits
  | snapshot => exact Engine.Leads.refl fits

mutual

theorem returns_runStep (step : Step) (session : Session) :
    Returns session.system.kernel (runStep step session).2.system.kernel := by
  cases step with
  | mk action refusal during pauses =>
      have lawful := lawful_engine refusal (runPauses pauses).length (returns_runSteps during)
      have fits : Scene.Fit { session := session, pauses := runPauses pauses } :=
        returns_runPauses pauses
      rw [runStep]
      exact (leads_act lawful action fits).1

/-- Whatever steps a script makes, the kernel changes as in a session whose calls all return. -/
theorem returns_runSteps (steps : List Step) : Interlude.Returns (runSteps steps) := by
  intro session
  cases steps with
  | nil => exact Lifecycle.Returns.refl _
  | cons step steps =>
      rw [runSteps]
      exact (returns_runStep step session).trans (returns_runSteps steps _)

theorem returns_runPauses (pauses : List (List Step)) :
    ∀ pause ∈ runPauses pauses, Interlude.Returns pause := by
  intro pause member
  cases pauses with
  | nil => cases member
  | cons steps pauses =>
      rw [runPauses] at member
      rcases List.mem_cons.mp member with rfl | later
      · exact returns_runSteps steps
      · exact returns_runPauses pauses pause later

end

/-- After a script, the kernel is as after some moves, and no call is pending. -/
theorem exists_run_runSteps (config : KernelConfig) (images : List (Image String))
    (console : Console) (steps : List Step) :
    ∃ moves, ((Activity.boot config (.ofList images)).run moves).2 =
      ⟨(runSteps steps (boot config images console)).2.system.kernel, []⟩ := by
  rcases returns_runSteps steps (boot config images console) with ⟨moves, returns⟩
  exact ⟨moves, returns []⟩

end Session

end Lifecycle
