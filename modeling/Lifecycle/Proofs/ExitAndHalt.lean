import Lifecycle.Proofs.Activity

/-!
# Exits, halts and power-offs

What an exit and a halt do to the kernel, and when the machine is told to stop, in terms of the states
of all processes. The kernel itself decides by a counter; that the counter and the states agree is the
representation invariant of the table.

An exit touches one record, the free list and the waiters of the process, and nothing else: children
keep their parent, and the parent keeps the child until it collects it. A halt touches nothing. The
machine is told to stop by the exit of the last process that runs, by a halt of such a process, and by
a creation that finds no pid left, once by each of them and by nothing else.
-/

namespace Lifecycle

namespace ProcessTable

variable {table : ProcessTable} {pid : Pid}

/-- The process runs, and no other one does. -/
structure OnlyRunning (table : ProcessTable) (pid : Pid) : Prop where
  running : table.stateOf? pid = some .running
  alone : ∀ other, table.stateOf? other = some .running → other = pid

theorem WellFormed.isLastRunning_iff_onlyRunning (wellFormed : table.WellFormed) :
    table.isLastRunning pid = true ↔ table.OnlyRunning pid := by
  rw [wellFormed.isLastRunning_iff]
  constructor
  · rintro ⟨running, alone⟩
    exact ⟨running, alone⟩
  · rintro ⟨running, alone⟩
    exact ⟨running, alone⟩

theorem WellFormed.running_eq_one_iff (wellFormed : table.WellFormed)
    (running : table.stateOf? pid = some .running) :
    table.running = 1 ↔ table.OnlyRunning pid := by
  rw [← wellFormed.isLastRunning_iff_onlyRunning]
  simp [isLastRunning, running]

end ProcessTable

namespace Kernel

variable {E : Type} {kernel : Kernel E} {pid caller : Pid}

/--
The process has ended with this termination, its frames are free again, and nobody waits for it any
more. Beyond that `next` does not differ from `kernel`.
-/
structure Ended (kernel : Kernel E) (pid : Pid) (termination : Termination) (next : Kernel E) :
    Prop where
  ended : ∀ record, kernel.table.find? pid = some record →
    next.table.find? pid = some { record with state := .exited termination, space := none }
  others : ∀ other, other ≠ pid → next.table.find? other = kernel.table.find? other
  parentOf?_eq : ∀ other, next.table.parentOf? other = kernel.table.parentOf? other
  hasChild_eq : ∀ parent child, next.table.hasChild parent child = kernel.table.hasChild parent child
  nextPid_eq : next.table.nextPid = kernel.table.nextPid
  maxPid_eq : next.table.maxPid = kernel.table.maxPid
  running_eq : next.table.running = next.table.runningCount
  free_eq : next.loader.pool.free =
    (kernel.table.framesOf pid).reverse ++ kernel.loader.pool.free
  loader_eq : next.loader =
    { kernel.loader with pool := { kernel.loader.pool with free := next.loader.pool.free } }
  waitersOf_eq : ∀ target, next.waiters.waitersOf target =
    if pid = target then [] else kernel.waiters.waitersOf target

theorem ended_departed (wellFormed : kernel.table.WellFormed) (status : Option Int32)
    (running : kernel.table.stateOf? pid = some .running) :
    kernel.Ended pid (.ofStatus status) (kernel.departed pid status) where
  ended record present := by
    simp [departed, ProcessTable.find?_terminated, present]
  others other different := by
    simp [departed, ProcessTable.find?_terminated, Ne.symm different]
  parentOf?_eq _ := ProcessTable.parentOf?_terminated
  hasChild_eq _ _ := ProcessTable.hasChild_terminated
  nextPid_eq := rfl
  maxPid_eq := rfl
  running_eq := (wellFormed.terminated running).running_eq
  free_eq := rfl
  loader_eq := rfl
  waitersOf_eq target := WaitQueue.waitersOf_takeAll kernel.waiters pid target

/-- What exits, halts and creations do, and what they tell the engine. -/
structure EndsByLaw (kernel : Kernel E) : Prop where
  /-- An exit with a status ends the process with exactly this status, whichever it is. -/
  exit_ends : ∀ pid status, kernel.table.stateOf? pid = some .running →
    kernel.Ended pid (.exit status) (kernel.exit pid (some status)).1
  exit_ends_abnormally : ∀ pid, kernel.table.stateOf? pid = some .running →
    kernel.Ended pid .abnormal (kernel.exit pid none).1
  /-- The last exit stops the machine, after everybody who waited was woken. -/
  exit_last : ∀ pid status, kernel.table.OnlyRunning pid →
    signals (kernel.exit pid status).2 =
      (kernel.waiters.waitersOf pid).map .wake ++ [.powerOff .allExited]
  exit_beside : ∀ pid status other, kernel.table.stateOf? pid = some .running →
    other ≠ pid → kernel.table.stateOf? other = some .running →
      signals (kernel.exit pid status).2 = (kernel.waiters.waitersOf pid).map .wake
  exit_ignored : ∀ pid status, kernel.table.stateOf? pid ≠ some .running →
    (kernel.exit pid status).1 = kernel ∧ signals (kernel.exit pid status).2 = []
  halt_granted : ∀ caller, kernel.table.OnlyRunning caller →
    (kernel.halt caller).1 = .ok () ∧
      signals (kernel.halt caller).2.2 = [.powerOff (.requested caller)]
  halt_refused : ∀ caller, ¬kernel.table.OnlyRunning caller →
    (kernel.halt caller).1 = .error .notLastProcess ∧ signals (kernel.halt caller).2.2 = []
  halt_unchanged : ∀ caller, (kernel.halt caller).2.1 = kernel
  /-- A creation that finds no pid left stops the machine and leaves the kernel as it is. -/
  spawn_exhausted : ∀ parent name arguments, kernel.table.maxPid < kernel.table.nextPid →
    ∃ effects, kernel.prepare parent name arguments = (.error .pidSpaceExhausted, kernel, effects) ∧
      signals effects = [.powerOff .pidSpaceExhausted]
  spawn_in_range : ∀ parent name arguments, kernel.table.nextPid ≤ kernel.table.maxPid →
    signals (kernel.prepare parent name arguments).2.2 = []

theorem ended_exit (wellFormed : kernel.table.WellFormed) (status : Option Int32)
    (running : kernel.table.stateOf? pid = some .running) :
    kernel.Ended pid (.ofStatus status) (kernel.exit pid status).1 := by
  rcases exit_cases wellFormed pid status with ⟨idle, _⟩ | ⟨_, left, _⟩
  · exact absurd running idle
  · rw [left]
    exact ended_departed wellFormed status running

theorem endsByLaw (wellFormed : kernel.table.WellFormed) : kernel.EndsByLaw := by
  refine ⟨?_, ?_, ?_, ?_, ?_, ?_, ?_, ?_, ?_, ?_⟩
  · intro pid status running
    exact ended_exit wellFormed (some status) running
  · intro pid running
    exact ended_exit wellFormed none running
  · intro pid status only
    rcases exit_cases wellFormed pid status with ⟨idle, _⟩ | ⟨running, _, told⟩
    · exact absurd only.running idle
    · have one := (wellFormed.running_eq_one_iff running).mpr only
      simp [told, departureSignals, one]
  · intro pid status other running different otherRunning
    rcases exit_cases wellFormed pid status with ⟨idle, _⟩ | ⟨_, _, told⟩
    · exact absurd running idle
    · have several : kernel.table.running ≠ 1 := by
        intro one
        exact different (((wellFormed.running_eq_one_iff running).mp one).alone other otherRunning)
      simp [told, departureSignals, several]
  · intro pid status idle
    rcases exit_cases wellFormed pid status with ⟨_, unchanged⟩ | ⟨running, _⟩
    · exact unchanged
    · exact absurd running idle
  · intro caller only
    have last := wellFormed.isLastRunning_iff_onlyRunning.mpr only
    simp [halt, last]
  · intro caller busy
    rw [← wellFormed.isLastRunning_iff_onlyRunning] at busy
    simp [halt, busy]
  · intro caller
    unfold halt
    split <;> rfl
  · intro parent name arguments full
    rcases prepare_cases wellFormed parent name arguments with
      ⟨cause, effects, answer, told, refuses⟩ | ⟨_, _, _, _, _, _, inRange, _⟩
    · cases refuses with
      | exhausted _ => exact ⟨effects, answer, told⟩
      | orphan inRange _ _ => omega
      | unloadable inRange _ _ => omega
    · omega
  · intro parent name arguments inRange
    rcases prepare_cases wellFormed parent name arguments with
      ⟨cause, effects, answer, told, refuses⟩ | ⟨_, _, _, effects, answer, silent, _⟩
    · rw [answer]
      cases refuses with
      | exhausted full => omega
      | orphan _ _ _ => exact told
      | unloadable _ _ _ => exact told
    · rw [answer]
      exact silent

end Kernel

/-! ### Stopping the machine in a session -/

namespace Activity

variable {E : Type} {activity next : Activity E} {happening : Happening} {effects : List Effect}

/-- What happens in this activity is a reason to stop the machine. -/
inductive Stops (activity : Activity E) : Happening → HaltReason → Prop
  | lastExit {pid : Pid} {status : Option Int32}
      (only : activity.kernel.table.OnlyRunning pid) :
      Stops activity (.exited pid status) .allExited
  | halt {caller : Pid} (only : activity.kernel.table.OnlyRunning caller) :
      Stops activity (.halted caller (.ok ())) (.requested caller)
  | exhaustion {parent : Option Pid}
      (full : activity.kernel.table.maxPid < activity.kernel.table.nextPid) :
      Stops activity (.refused parent .pidSpaceExhausted) .pidSpaceExhausted

/-- The machine is told to stop once for every reason to do so, and never without one. -/
theorem Step.count_powerOff (step : Step activity happening effects next) (sound : activity.Sound)
    (reason : HaltReason) :
    (activity.Stops happening reason → effects.count (.powerOff reason) = 1) ∧
      (¬activity.Stops happening reason → effects.count (.powerOff reason) = 0) := by
  have wellFormed := sound.wellFormed
  cases step with
  | refused refuses =>
      cases refuses with
      | exhausted full =>
          refine ⟨?_, ?_⟩
          · intro stops
            cases stops
            rfl
          · intro unfounded
            have other : reason ≠ .pidSpaceExhausted := by
              rintro rfl
              exact unfounded (.exhaustion full)
            simp [Kernel.refusalSignals, Ne.symm other]
      | orphan _ _ _ =>
          refine ⟨?_, fun _ => rfl⟩
          intro stops
          cases stops
      | unloadable _ _ _ =>
          refine ⟨?_, fun _ => rfl⟩
          intro stops
          cases stops
  | exitIgnored idle =>
      refine ⟨?_, fun _ => rfl⟩
      intro stops
      cases stops with
      | lastExit only => exact absurd only.running idle
  | departed running =>
      rename_i kernel pending pid status
      have silent : ((kernel.waiters.waitersOf pid).map Effect.wake).count (.powerOff reason) = 0 := by
        simp [List.count_eq_zero]
      have alone := wellFormed.running_eq_one_iff running
      simp only [Kernel.departureSignals, List.count_append, silent, zero_add]
      refine ⟨?_, ?_⟩
      · intro stops
        cases stops with
        | lastExit only =>
            rw [if_pos (alone.mpr only)]
            exact List.count_singleton_self
      · intro unfounded
        split
        · rename_i one
          have other : reason ≠ .allExited := by
            rintro rfl
            exact unfounded (.lastExit (alone.mp one))
          simp [Ne.symm other]
        · rfl
  | haltGranted last =>
      rename_i caller
      have only := wellFormed.isLastRunning_iff_onlyRunning.mp last
      refine ⟨?_, ?_⟩
      · intro stops
        cases stops
        exact List.count_singleton_self
      · intro unfounded
        have other : reason ≠ .requested caller := by
          rintro rfl
          exact unfounded (.halt only)
        simp [Ne.symm other]
  | _ =>
      refine ⟨?_, fun _ => rfl⟩
      intro stops
      cases stops

/--
In every state that a session reaches, exits, halts and creations act as the law says. Over the whole
session the machine is told to stop once by each last exit, by each halt that is granted and by each
creation that finds no pid left, and by nothing else.
-/
theorem exits_and_halts_obey_law (config : KernelConfig) (registry : ImageRegistry E)
    (moves : List Move) :
    ((boot config registry).run moves).2.kernel.EndsByLaw ∧
      ∀ moment ∈ ((boot config registry).run moves).1, ∀ reason,
        (moment.before.Stops moment.happening reason →
            moment.effects.count (.powerOff reason) = 1) ∧
          (¬moment.before.Stops moment.happening reason →
            moment.effects.count (.powerOff reason) = 0) := by
  have sound := sound_boot config registry
  refine ⟨Kernel.endsByLaw (sound_run config registry moves).wellFormed, ?_⟩
  intro moment member reason
  rcases (steps_run sound moves).of_mem sound member with ⟨before, step⟩
  have counted := step.count_powerOff before reason
  rw [count_signals rfl] at counted
  exact counted

end Activity

end Lifecycle
