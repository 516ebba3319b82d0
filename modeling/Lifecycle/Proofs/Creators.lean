import Lifecycle.Proofs.EngineRuns
import Lifecycle.Proofs.PowerOff

/-!
# Who can create a process

A process is created below its caller, so the caller needs a record. What is found out first is
whether a pid is left: once the pids have run out the machine stops, whoever asks for another one.
Only then is the caller looked for. This file proves what a caller without a record gets in either
case, for the kernel's own operation and for every engine that carries it out: a refusal, and
nothing else.

The record of a caller that ran is always found, so a process that runs is never taken for unknown.
-/

namespace Lifecycle

namespace Kernel

variable {E : Type} {kernel : Kernel E}

/-- The machine is told to stop once the pids have run out, whoever asks. -/
theorem prepare_of_exhausted (full : kernel.table.maxPid < kernel.table.nextPid)
    (parent : Option Pid) (name : String) (arguments : List String) :
    kernel.prepare parent name arguments =
      (.error .pidSpaceExhausted, kernel,
        [.log .pidSpaceExhausted, .powerOff .pidSpaceExhausted]) := by
  have exhausted : kernel.table.reserve parent = .error .pidSpaceExhausted :=
    ProcessTable.reserve_eq_exhausted_iff.mpr full
  simp only [prepare, exhausted]

theorem prepare_of_unknown {caller : Pid} (inRange : kernel.table.nextPid ≤ kernel.table.maxPid)
    (unknown : kernel.table.contains caller = false) (name : String) (arguments : List String) :
    kernel.prepare (some caller) name arguments = (.error .noSuchParent, kernel, []) := by
  have unreserved : kernel.table.reserve (some caller) = .error (.noSuchProcess caller) := by
    simp [ProcessTable.reserve, Nat.not_lt.mpr inRange, unknown]
  simp only [prepare, unreserved]

end Kernel

theorem Engine.spawn_of_refused {E σ : Type} (engine : Engine E σ) {state : σ} {parent : Option Pid}
    {name : String} {arguments : List String} {cause : ExecError} {told : List Effect}
    (refused : (engine.kernel state).prepare parent name arguments =
      (.error cause, engine.kernel state, told)) :
    engine.spawn parent name arguments state =
      (.error cause, engine.report (Kernel.creationRecords parent name (.error cause))
        (engine.report told state)) := by
  have kept : engine.onKernel (·.prepare parent name arguments) state =
      (.error cause, engine.report told state) := by
    rw [kernel] at refused
    simp only [onKernel, refused, report]
  simp only [spawn, kept]

namespace Activity

variable {E : Type} {activity : Activity E} {caller : Pid}

/--
Nothing comes of a creation that `caller` asks for but the refusal `cause` and the effects `told`.
An engine that is asked for it neither starts nor suspends a process meanwhile.
-/
structure TurnsDown (activity : Activity E) (caller : Pid) (cause : ExecError)
    (told : List Effect) : Prop where
  spawn : ∀ name arguments, activity.spawn (some caller) name arguments =
    ⟨.refused (some caller) cause, told, activity, activity⟩
  engine : ∀ {σ : Type} (engine : Engine E σ) (state : σ),
    engine.kernel state = activity.kernel → ∀ name arguments,
      engine.spawn (some caller) name arguments state =
        (.error cause, engine.report [.log (.notCreated caller name cause)]
          (engine.report told state))
  perform : ∀ {σ : Type} (engine : Engine E σ) (state : σ),
    engine.kernel state = activity.kernel → ∀ name arguments,
      engine.perform caller (.exec name arguments) state =
        (some .failure, engine.report [.log (.notCreated caller name cause)]
          (engine.report told state))

theorem turnsDown_of_refused {cause : ExecError} {told : List Effect}
    (refused : ∀ name arguments, activity.kernel.prepare (some caller) name arguments =
      (.error cause, activity.kernel, told)) : activity.TurnsDown caller cause told := by
  have engines {σ : Type} (engine : Engine E σ) (state : σ)
      (same : engine.kernel state = activity.kernel) (name : String) (arguments : List String) :
      engine.spawn (some caller) name arguments state =
        (.error cause, engine.report [.log (.notCreated caller name cause)]
          (engine.report told state)) := by
    apply engine.spawn_of_refused
    rw [same]
    exact refused name arguments
  refine ⟨?_, engines, ?_⟩
  · intro name arguments
    simp only [Activity.spawn, refused]
  · intro σ engine state same name arguments
    simp only [Engine.perform, engines engine state same]
    rfl

/-- What callers get that ask for a child, as far as their own records decide it. -/
structure GuardsCreation (activity : Activity E) : Prop where
  /-- As long as a pid is left, a caller without a record is refused, and nothing else happens. -/
  unknown : ∀ caller, activity.kernel.table.nextPid ≤ activity.kernel.table.maxPid →
    activity.kernel.table.contains caller = false →
      activity.TurnsDown caller .noSuchParent []
  /-- Once no pid is left every caller is refused, and the machine is told to stop. -/
  exhausted : ∀ caller, activity.kernel.table.maxPid < activity.kernel.table.nextPid →
    activity.TurnsDown caller .pidSpaceExhausted
      [.log .pidSpaceExhausted, .powerOff .pidSpaceExhausted]
  /-- A caller that runs is not taken for one without a record. -/
  running : ∀ caller, activity.kernel.table.stateOf? caller = some .running →
    ∀ name arguments, (activity.spawn (some caller) name arguments).happening ≠
      .refused (some caller) .noSuchParent

theorem Sound.guardsCreation (sound : activity.Sound) : activity.GuardsCreation := by
  refine ⟨?_, ?_, ?_⟩
  · intro caller inRange unknown
    exact turnsDown_of_refused (Kernel.prepare_of_unknown inRange unknown)
  · intro caller full
    exact turnsDown_of_refused (Kernel.prepare_of_exhausted full (some caller))
  · intro caller running name arguments refused
    rcases ProcessTable.stateOf?_eq_some_iff.mp running with ⟨record, present, _⟩
    have known := ProcessTable.contains_iff.mpr ⟨record, present⟩
    rcases Kernel.prepare_cases sound.wellFormed (some caller) name arguments with
      ⟨cause, effects, answer, _, refuses⟩ | ⟨entry, space, loader, effects, answer, _⟩
    · simp only [spawn, answer, Happening.refused.injEq, true_and] at refused
      subst refused
      cases refuses with
      | orphan inRange named unknown =>
          cases named
          rw [known] at unknown
          cases unknown
    · simp only [spawn, answer, reduceCtorEq] at refused

variable {next : Activity E} {happening : Happening} {effects : List Effect}

theorem Step.creator_known {pid : Pid} (step : Step activity happening effects next)
    (launches : happening = .launched (some caller) pid) :
    activity.kernel.table.contains caller = true := by
  cases step with
  | launched inRange known built =>
      cases launches
      exact known caller rfl
  | _ => cases launches

/-- Only a creation that is refused because no pid is left stops the machine for that. -/
theorem Step.exhausted (step : Step activity happening effects next)
    (stops : .powerOff .pidSpaceExhausted ∈ effects) :
    (∃ parent, happening = .refused parent .pidSpaceExhausted) ∧
      activity.kernel.table.maxPid < activity.kernel.table.nextPid := by
  cases step with
  | refused refuses =>
      cases refuses with
      | exhausted full => exact ⟨⟨_, rfl⟩, full⟩
      | orphan inRange named unknown => cases stops
      | unloadable inRange known failed => cases stops
  | departed running =>
      simp only [Kernel.departureSignals, List.mem_append, List.mem_map, reduceCtorEq, and_false,
        exists_false, false_or] at stops
      split at stops <;> simp at stops
  | haltGranted last => simp at stops
  | _ => cases stops

/--
Wherever a session has led, a caller without a record creates nothing: it is refused, and no record,
link, pid, frame or start comes of it. The machine is told to stop for want of pids only by a creation
that is refused because none was left, whoever asked for it.
-/
theorem creators_need_records (config : KernelConfig) (registry : ImageRegistry E)
    (moves : List Move) :
    ((boot config registry).run moves).2.GuardsCreation ∧
      ∀ moment ∈ ((boot config registry).run moves).1,
        (∀ caller pid, moment.happening = .launched (some caller) pid →
          moment.before.kernel.table.contains caller = true) ∧
        (.powerOff .pidSpaceExhausted ∈ moment.effects →
          (∃ parent, moment.happening = .refused parent .pidSpaceExhausted) ∧
            moment.before.kernel.table.maxPid < moment.before.kernel.table.nextPid) := by
  refine ⟨(sound_run config registry moves).guardsCreation, ?_⟩
  intro moment member
  have steps := steps_run (sound_boot config registry) moves
  rcases steps.of_mem (sound_boot config registry) member with ⟨_, step⟩
  refine ⟨?_, ?_⟩
  · intro caller pid launches
    exact step.creator_known launches
  · intro stops
    exact step.exhausted ((mem_signals rfl).mpr stops)

/-- A child of the first process ends. -/
def childEnds : List Move :=
  [.spawn none "a.coff" [], .answer none, .spawn (some .root) "a.coff" [], .answer none,
    .exit ⟨1⟩ none]

/-- After that; nobody has collected the child. -/
def withEndedChild : Activity String :=
  ((boot {} (.ofList [⟨"a.coff", 1, "a"⟩])).run childEnds).2

/-- A pid that nobody has gets a refusal. -/
theorem creators_need_records_beside_child :
    withEndedChild.kernel.table.contains ⟨99⟩ = false ∧
      withEndedChild.kernel.table.nextPid ≤ withEndedChild.kernel.table.maxPid ∧
      withEndedChild.TurnsDown ⟨99⟩ .noSuchParent [] := by
  have unknown : withEndedChild.kernel.table.contains ⟨99⟩ = false := by decide +kernel
  have inRange : withEndedChild.kernel.table.nextPid ≤ withEndedChild.kernel.table.maxPid := by
    decide +kernel
  have guards : withEndedChild.GuardsCreation := (creators_need_records {} _ childEnds).1
  exact ⟨unknown, inRange, guards.unknown ⟨99⟩ inRange unknown⟩

/-- The first process has the only pid. -/
def withOnlyPid : Activity String :=
  ((boot { maxPid := 0 } (.ofList [⟨"a.coff", 1, "a"⟩])).run
    [.spawn none "a.coff" [], .answer none]).2

/--
A caller without a record stops the machine where no pid is left, and a caller that has ended, but
was not collected yet, still gets a child.
-/
theorem creation_is_not_refused_quietly :
    withOnlyPid.kernel.table.contains ⟨99⟩ = false ∧
      (withOnlyPid.spawn (some ⟨99⟩) "a.coff" []).happening =
        .refused (some ⟨99⟩) .pidSpaceExhausted ∧
      .powerOff .pidSpaceExhausted ∈ (withOnlyPid.spawn (some ⟨99⟩) "a.coff" []).effects ∧
      withEndedChild.kernel.table.stateOf? ⟨1⟩ = some (.exited .abnormal) ∧
      (withEndedChild.spawn (some ⟨1⟩) "a.coff" []).happening = .launched (some ⟨1⟩) ⟨2⟩ := by
  exact ⟨by decide +kernel, by decide +kernel, by decide +kernel, by decide +kernel,
    by decide +kernel⟩

end Activity

end Lifecycle
