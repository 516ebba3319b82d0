import Lifecycle.Proofs.KernelOperations

/-!
# Activities

A kernel session, one step at a time. While the engine starts or suspends a process, the call that
asked for it has not returned and other calls may be made, to any depth. An activity is a kernel
together with the calls that have not returned, the innermost in front.

A session is a list of moves. A move makes a new call, or it lets the engine come back to the
innermost call that is pending: a start is answered, a suspended caller looks again or is given up. A
move for which there is no such call is skipped, so every list of moves is a session, and every order
in which calls can be made and return is one.

The history of a session lists its moments. All that a step can do is said by the relation `Step`,
one constructor for each way in which it goes.
-/

namespace Lifecycle

/-- A call of the kernel that waits for the engine. -/
inductive PendingCall where
  /-- A process was created below `parent`, and the engine has not said yet whether it starts. -/
  | creation (parent : Option Pid) (pid : Pid)
  /-- `caller` is suspended until it looks again whether `target` has ended. -/
  | wait (caller target : Pid)
  deriving DecidableEq, Repr

/-- A kernel in the middle of calls. -/
structure Activity (E : Type) where
  kernel : Kernel E
  /-- The calls that have not returned, the innermost in front. -/
  pending : List PendingCall
  deriving DecidableEq, Repr

/-- What can be done next in a session. -/
inductive Move where
  /-- Creates a process below `parent`; without a parent it is the first process. -/
  | spawn (parent : Option Pid) (name : String) (arguments : List String)
  /-- The engine answers the innermost start. -/
  | answer (refusal : Option StartError)
  | join (caller target : Pid)
  /-- The caller that was suspended last looks again. -/
  | resume
  /-- The caller that was suspended last never runs again. -/
  | giveUp
  | exit (caller : Pid) (status : Option Int32)
  | halt (caller : Pid)
  deriving DecidableEq, Repr

/-- What happened in one step of a session. -/
inductive Happening where
  | refused (parent : Option Pid) (cause : ExecError)
  /-- A process runs, and the engine is asked to start it. -/
  | launched (parent : Option Pid) (pid : Pid)
  /-- A creation returned with the pid of the new process. -/
  | created (parent : Option Pid) (pid : Pid)
  /-- A creation returned with a refusal by the engine. -/
  | withdrawn (parent : Option Pid) (pid : Pid) (cause : ExecError)
  | suspended (caller target : Pid)
  | joined (caller target : Pid) (result : Except JoinError Termination)
  | givenUp (caller target : Pid)
  | exited (caller : Pid) (status : Option Int32)
  | halted (caller : Pid) (result : Except HaltError Unit)
  deriving DecidableEq, Repr

/-- One step of a session. -/
structure Moment (E : Type) where
  happening : Happening
  effects : List Effect
  before : Activity E
  after : Activity E

namespace Activity

variable {E : Type}

/-- A session in which no call was made yet. -/
def boot (config : KernelConfig) (registry : ImageRegistry E) : Activity E :=
  ⟨.boot config registry, []⟩

/-- A call that creates a process, up to the point where the engine starts it. -/
def spawn (activity : Activity E) (parent : Option Pid) (name : String)
    (arguments : List String) : Moment E :=
  match activity.kernel.prepare parent name arguments with
  | (.error cause, kernel, effects) =>
      ⟨.refused parent cause, effects, activity, ⟨kernel, activity.pending⟩⟩
  | (.ok launch, kernel, effects) =>
      ⟨.launched parent launch.pid, effects, activity,
        ⟨kernel, .creation parent launch.pid :: activity.pending⟩⟩

/-- The return of a call that creates a process; the calls `outer` are still pending then. -/
def answer (activity : Activity E) (parent : Option Pid) (pid : Pid) (outer : List PendingCall)
    (refusal : Option StartError) : Moment E :=
  match activity.kernel.conclude pid refusal with
  | (.ok pid, kernel, effects) => ⟨.created parent pid, effects, activity, ⟨kernel, outer⟩⟩
  | (.error cause, kernel, effects) =>
      ⟨.withdrawn parent pid cause, effects, activity, ⟨kernel, outer⟩⟩

/-- A look whether `target` can be collected, inside the calls `outer`. -/
def look (activity : Activity E) (caller target : Pid) (outer : List PendingCall) : Moment E :=
  match activity.kernel.poll caller target with
  | (none, kernel, effects) =>
      ⟨.suspended caller target, effects, activity, ⟨kernel, .wait caller target :: outer⟩⟩
  | (some result, kernel, effects) =>
      ⟨.joined caller target result, effects, activity, ⟨kernel, outer⟩⟩

/-- The moment that a move leads to; there is none if the move does not fit. -/
def step (activity : Activity E) : Move → Option (Moment E)
  | .spawn parent name arguments => some (activity.spawn parent name arguments)
  | .answer refusal =>
      match activity.pending with
      | .creation parent pid :: outer => some (activity.answer parent pid outer refusal)
      | _ => none
  | .join caller target => some (activity.look caller target activity.pending)
  | .resume =>
      match activity.pending with
      | .wait caller target :: outer => some (activity.look caller target outer)
      | _ => none
  | .giveUp =>
      match activity.pending with
      | .wait caller target :: outer =>
          some ⟨.givenUp caller target, [], activity, ⟨activity.kernel, outer⟩⟩
      | _ => none
  | .exit caller status =>
      let (kernel, effects) := activity.kernel.exit caller status
      some ⟨.exited caller status, effects, activity, ⟨kernel, activity.pending⟩⟩
  | .halt caller =>
      let (result, kernel, effects) := activity.kernel.halt caller
      some ⟨.halted caller result, effects, activity, ⟨kernel, activity.pending⟩⟩

/-- The history of moves and the activity that they lead to. -/
def run (activity : Activity E) : List Move → List (Moment E) × Activity E
  | [] => ([], activity)
  | move :: moves =>
      match activity.step move with
      | none => run activity moves
      | some moment =>
          let (history, last) := run moment.after moves
          (moment :: history, last)

/-! ### What a step can do -/

/-- `caller` may look for `target` now: a join was called, or the innermost one is resumed. -/
def Looks (activity : Activity E) (caller target : Pid) (outer : List PendingCall) : Prop :=
  activity.pending = outer ∨ activity.pending = .wait caller target :: outer

/-- Every way in which a step goes: what happens, what the engine is told and what is left. -/
inductive Step : Activity E → Happening → List Effect → Activity E → Prop
  | refused {activity : Activity E} {parent : Option Pid} {name : String}
      {arguments : List String} {cause : ExecError}
      (refuses : activity.kernel.Refuses parent name arguments cause) :
      Step activity (.refused parent cause) (Kernel.refusalSignals cause) activity
  | launched {kernel : Kernel E} {pending : List PendingCall} {parent : Option Pid} {name : String}
      {arguments : List String} {entry : E} {space : AddressSpace} {loader : Loader E}
      (inRange : kernel.table.nextPid ≤ kernel.table.maxPid)
      (known : ∀ creator, parent = some creator → kernel.table.contains creator = true)
      (built : kernel.loader.load name arguments = .ok (⟨entry, space⟩, loader)) :
      Step ⟨kernel, pending⟩ (.launched parent ⟨kernel.table.nextPid⟩) []
        ⟨kernel.launched parent space loader, .creation parent ⟨kernel.table.nextPid⟩ :: pending⟩
  | created {kernel : Kernel E} {outer : List PendingCall} {parent : Option Pid} {pid : Pid} :
      Step ⟨kernel, .creation parent pid :: outer⟩ (.created parent pid) [] ⟨kernel, outer⟩
  | withdrawn {kernel : Kernel E} {outer : List PendingCall} {parent : Option Pid} {pid : Pid}
      {cause : StartError} :
      Step ⟨kernel, .creation parent pid :: outer⟩ (.withdrawn parent pid (.start cause)) []
        ⟨(kernel.abandon pid).1, outer⟩
  | suspended {activity : Activity E} {outer : List PendingCall} {caller target : Pid}
      (looks : activity.Looks caller target outer)
      (child : activity.kernel.table.IsChild caller target)
      (unfinished : activity.kernel.table.stateOf? target = some .embryo ∨
        activity.kernel.table.stateOf? target = some .running) :
      Step activity (.suspended caller target) []
        ⟨{ activity.kernel with waiters := activity.kernel.waiters.add target caller },
          .wait caller target :: outer⟩
  | turnedDown {activity : Activity E} {outer : List PendingCall} {caller target : Pid}
      (looks : activity.Looks caller target outer)
      (stranger : ¬activity.kernel.table.IsChild caller target) :
      Step activity (.joined caller target (.error .notAChild)) []
        ⟨{ activity.kernel with
            waiters := (activity.kernel.waiters.add target caller).remove target caller },
          outer⟩
  | collected {activity : Activity E} {outer : List PendingCall} {caller target : Pid}
      {termination : Termination} (looks : activity.Looks caller target outer)
      (child : activity.kernel.table.IsChild caller target)
      (ended : activity.kernel.table.stateOf? target = some (.exited termination)) :
      Step activity (.joined caller target (.ok termination)) []
        ⟨{ activity.kernel with
            table := activity.kernel.table.collected caller target
            waiters := (activity.kernel.waiters.add target caller).remove target caller },
          outer⟩
  | givenUp {kernel : Kernel E} {outer : List PendingCall} {caller target : Pid} :
      Step ⟨kernel, .wait caller target :: outer⟩ (.givenUp caller target) [] ⟨kernel, outer⟩
  | exitIgnored {activity : Activity E} {caller : Pid} {status : Option Int32}
      (idle : activity.kernel.table.stateOf? caller ≠ some .running) :
      Step activity (.exited caller status) [] activity
  | departed {kernel : Kernel E} {pending : List PendingCall} {caller : Pid}
      {status : Option Int32} (running : kernel.table.stateOf? caller = some .running) :
      Step ⟨kernel, pending⟩ (.exited caller status) (kernel.departureSignals caller)
        ⟨kernel.departed caller status, pending⟩
  | haltGranted {activity : Activity E} {caller : Pid}
      (last : activity.kernel.table.isLastRunning caller = true) :
      Step activity (.halted caller (.ok ())) [.powerOff (.requested caller)] activity
  | haltRefused {activity : Activity E} {caller : Pid}
      (busy : activity.kernel.table.isLastRunning caller = false) :
      Step activity (.halted caller (.error .notLastProcess)) [] activity

variable {activity next last : Activity E} {happening : Happening} {effects : List Effect}
  {moment : Moment E}

/-- The moment is a step from the activity. -/
def IsStep (activity : Activity E) (moment : Moment E) : Prop :=
  moment.before = activity ∧
    Step activity moment.happening (signals moment.effects) moment.after

theorem isStep_spawn (wellFormed : activity.kernel.table.WellFormed) (parent : Option Pid)
    (name : String) (arguments : List String) :
    activity.IsStep (activity.spawn parent name arguments) := by
  rcases activity with ⟨kernel, pending⟩
  rcases Kernel.prepare_cases wellFormed parent name arguments with
    ⟨cause, effects, answer, silent, refuses⟩ |
    ⟨entry, space, loader, effects, answer, silent, inRange, known, built⟩
  · simp only [spawn, answer]
    refine ⟨rfl, ?_⟩
    simp only [silent]
    exact .refused refuses
  · simp only [spawn, answer]
    refine ⟨rfl, ?_⟩
    simp only [silent]
    exact .launched inRange known built

theorem isStep_answer {parent : Option Pid} {pid : Pid} {outer : List PendingCall}
    (pending : activity.pending = .creation parent pid :: outer) (refusal : Option StartError) :
    activity.IsStep (activity.answer parent pid outer refusal) := by
  rcases activity with ⟨kernel, calls⟩
  simp only at pending
  subst calls
  cases refusal with
  | none => exact ⟨rfl, .created⟩
  | some cause =>
      refine ⟨rfl, ?_⟩
      simp only [answer, Kernel.conclude, Kernel.signals_abandon]
      exact .withdrawn

theorem isStep_look (wellFormed : activity.kernel.table.WellFormed) {caller target : Pid}
    {outer : List PendingCall} (looks : activity.Looks caller target outer) :
    activity.IsStep (activity.look caller target outer) := by
  rcases Kernel.poll_cases wellFormed caller target with
    ⟨effects, stranger, silent, answer⟩ | ⟨termination, effects, child, ended, silent, answer⟩ |
    ⟨effects, child, unfinished, silent, answer⟩
  · simp only [look, answer]
    refine ⟨rfl, ?_⟩
    simp only [silent]
    exact .turnedDown looks stranger
  · simp only [look, answer]
    refine ⟨rfl, ?_⟩
    simp only [silent]
    exact .collected looks child ended
  · simp only [look, answer]
    refine ⟨rfl, ?_⟩
    simp only [silent]
    exact .suspended looks child unfinished

theorem isStep_step (wellFormed : activity.kernel.table.WellFormed) {move : Move}
    (fits : activity.step move = some moment) : activity.IsStep moment := by
  cases move with
  | spawn parent name arguments =>
      cases fits
      exact isStep_spawn wellFormed parent name arguments
  | answer refusal =>
      simp only [step] at fits
      split at fits
      · rename_i parent pid outer pending
        cases fits
        exact isStep_answer pending refusal
      · cases fits
  | join caller target =>
      cases fits
      exact isStep_look wellFormed (Or.inl rfl)
  | resume =>
      simp only [step] at fits
      split at fits
      · rename_i caller target outer pending
        cases fits
        exact isStep_look wellFormed (Or.inr pending)
      · cases fits
  | giveUp =>
      rcases activity with ⟨kernel, calls⟩
      simp only [step] at fits
      split at fits
      · cases fits
        exact ⟨rfl, .givenUp⟩
      · cases fits
  | exit caller status =>
      rcases activity with ⟨kernel, pending⟩
      simp only [step, Option.some.injEq] at fits
      subst moment
      refine ⟨rfl, ?_⟩
      rcases Kernel.exit_cases wellFormed caller status with
        ⟨idle, left, told⟩ | ⟨running, left, told⟩
      · simp only [left, told]
        exact .exitIgnored idle
      · simp only [left, told]
        exact .departed running
  | halt caller =>
      simp only [step, Option.some.injEq] at fits
      subst moment
      refine ⟨rfl, ?_⟩
      cases last : activity.kernel.table.isLastRunning caller with
      | true =>
          simp only [Kernel.halt, last, if_true]
          exact .haltGranted last
      | false =>
          simp only [Kernel.halt, last, Bool.false_eq_true, if_false]
          exact .haltRefused last

/-! ### Sound activities -/

/-- The processes whose creation is pending, the innermost in front. -/
def creations (pending : List PendingCall) : List Pid :=
  pending.filterMap fun
    | .creation _ pid => some pid
    | .wait _ _ => none

@[simp]
theorem creations_creation (parent : Option Pid) (pid : Pid) (outer : List PendingCall) :
    creations (.creation parent pid :: outer) = pid :: creations outer := rfl

@[simp]
theorem creations_wait (caller target : Pid) (outer : List PendingCall) :
    creations (.wait caller target :: outer) = creations outer := rfl

theorem Looks.creations_eq {caller target : Pid} {outer : List PendingCall}
    (looks : activity.Looks caller target outer) :
    creations activity.pending = creations outer := by
  rcases looks with pending | pending
  · rw [pending]
  · rw [pending, creations_wait]

/-- What holds in every activity of a session. -/
structure Sound (activity : Activity E) : Prop where
  wellFormed : activity.kernel.table.WellFormed
  /-- A creation inside another one has a larger pid. -/
  descending : (creations activity.pending).Pairwise fun inner outer => outer.number < inner.number
  below_next : ∀ pid ∈ creations activity.pending, pid.number < activity.kernel.table.nextPid

theorem sound_boot (config : KernelConfig) (registry : ImageRegistry E) :
    (boot config registry).Sound where
  wellFormed := ProcessTable.wellFormed_ofMaxPid config.maxPid
  descending := List.Pairwise.nil
  below_next := by
    intro pid member
    cases member

/-- A table that hands out no smaller pids than before does not disturb the pending creations. -/
theorem Sound.of_creations_eq (sound : activity.Sound)
    (wellFormed : next.kernel.table.WellFormed)
    (same : creations activity.pending = creations next.pending)
    (later : activity.kernel.table.nextPid ≤ next.kernel.table.nextPid) : next.Sound where
  wellFormed := wellFormed
  descending := by
    rw [← same]
    exact sound.descending
  below_next := by
    intro pid member
    rw [← same] at member
    have below := sound.below_next pid member
    omega

theorem Step.sound (step : Step activity happening effects next) (sound : activity.Sound) :
    next.Sound := by
  have wellFormed := sound.wellFormed
  cases step with
  | refused refuses => exact sound
  | launched inRange known built =>
      refine ⟨?_, ?_, ?_⟩
      · exact (wellFormed.entered inRange known).activated ProcessTable.stateOf?_entered_nextPid
      · exact List.pairwise_cons.mpr ⟨sound.below_next, sound.descending⟩
      · intro pid member
        simp only [Kernel.launched, ProcessTable.activated, ProcessTable.entered]
        rcases List.mem_cons.mp member with rfl | pending
        · simp
        · have below := sound.below_next pid pending
          simp only at below
          omega
  | created =>
      rcases List.pairwise_cons.mp sound.descending with ⟨_, descending⟩
      refine ⟨wellFormed, descending, ?_⟩
      intro pid member
      exact sound.below_next pid (List.mem_cons_of_mem _ member)
  | withdrawn =>
      rename_i kernel outer parent pid cause
      rcases List.pairwise_cons.mp sound.descending with ⟨smaller, descending⟩
      refine ⟨?_, descending, ?_⟩
      · rw [Kernel.fst_abandon]
        exact wellFormed.withdraw pid
      · intro other member
        -- The counter goes back to the innermost creation at most, which has the largest pid.
        have below := sound.below_next other (List.mem_cons_of_mem _ member)
        have before := smaller other member
        have different : pid ≠ other := by
          intro same
          subst other
          omega
        rw [Kernel.fst_abandon]
        exact ProcessTable.lt_nextPid_withdraw different below
  | suspended looks child unfinished =>
      exact sound.of_creations_eq wellFormed looks.creations_eq (Nat.le_refl _)
  | turnedDown looks stranger =>
      exact sound.of_creations_eq wellFormed looks.creations_eq (Nat.le_refl _)
  | collected looks child ended =>
      exact sound.of_creations_eq (wellFormed.collected child ended) looks.creations_eq
        (Nat.le_refl _)
  | givenUp => exact sound.of_creations_eq wellFormed rfl (Nat.le_refl _)
  | exitIgnored idle => exact sound
  | departed running =>
      exact sound.of_creations_eq (wellFormed.terminated running) rfl (Nat.le_refl _)
  | haltGranted last => exact sound
  | haltRefused busy => exact sound

/-- Only the withdrawal of a process takes its pid back. -/
theorem Step.lt_nextPid (step : Step activity happening effects next)
    (below : pid.number < activity.kernel.table.nextPid)
    (kept : ∀ parent cause, happening ≠ .withdrawn parent pid cause) :
    pid.number < next.kernel.table.nextPid := by
  cases step with
  | launched inRange known built => exact Nat.lt_succ_of_lt below
  | withdrawn =>
      rename_i kernel outer parent failed cause
      have other : failed ≠ pid := by
        rintro rfl
        exact kept parent (.start cause) rfl
      rw [Kernel.fst_abandon]
      exact ProcessTable.lt_nextPid_withdraw other below
  | _ => exact below

/-- Between two steps no process is half created. -/
theorem Step.no_embryo (step : Step activity happening effects next)
    (none : ∀ pid, activity.kernel.table.stateOf? pid ≠ some .embryo) (pid : Pid) :
    next.kernel.table.stateOf? pid ≠ some .embryo := by
  cases step with
  | launched inRange known built =>
      rename_i kernel pending parent name arguments entry space loader
      simp only [Kernel.launched, ProcessTable.stateOf?_activated, ProcessTable.stateOf?_entered]
      by_cases newcomer : pid = ⟨kernel.table.nextPid⟩
      · simp [newcomer]
      · simpa [newcomer, Ne.symm newcomer] using none pid
  | withdrawn =>
      simp only [Kernel.fst_abandon, ProcessTable.stateOf?_withdraw]
      split
      · simp
      · exact none pid
  | collected looks child ended =>
      simp only [ProcessTable.stateOf?_collected]
      split
      · simp
      · exact none pid
  | departed running =>
      simp only [Kernel.departed, ProcessTable.stateOf?_terminated]
      split
      · simp
      · exact none pid
  | _ => exact none pid

/-! ### Histories -/

/-- The moments follow each other, from one activity to another. -/
inductive Steps : Activity E → List (Moment E) → Activity E → Prop
  | nil {activity : Activity E} : Steps activity [] activity
  | cons {activity last : Activity E} {moment : Moment E} {history : List (Moment E)}
      (step : activity.IsStep moment) (rest : Steps moment.after history last) :
      Steps activity (moment :: history) last

theorem IsStep.sound (step : activity.IsStep moment) (sound : activity.Sound) :
    moment.after.Sound := step.2.sound sound

theorem steps_run (sound : activity.Sound) (moves : List Move) :
    Steps activity (activity.run moves).1 (activity.run moves).2 := by
  induction moves generalizing activity with
  | nil => exact .nil
  | cons move moves ih =>
      simp only [run]
      split
      · exact ih sound
      · rename_i moment fits
        have step := isStep_step sound.wellFormed fits
        exact .cons step (ih (step.sound sound))

theorem Steps.eq_of_nil (steps : Steps activity [] last) : activity = last := by
  cases steps
  rfl

/-- A history can be cut anywhere. -/
theorem Steps.split {earlier later : List (Moment E)}
    (steps : Steps activity (earlier ++ later) last) :
    ∃ middle, Steps activity earlier middle ∧ Steps middle later last := by
  induction earlier generalizing activity with
  | nil => exact ⟨activity, .nil, steps⟩
  | cons moment earlier ih =>
      cases steps with
      | cons step rest =>
          rcases ih rest with ⟨middle, before, after⟩
          exact ⟨middle, .cons step before, after⟩

/-- Every moment of a history is a step between the histories before and after it. -/
theorem Steps.cut {earlier later : List (Moment E)}
    (steps : Steps activity (earlier ++ moment :: later) last) :
    Steps activity earlier moment.before ∧
      Step moment.before moment.happening (signals moment.effects) moment.after ∧
        Steps moment.after later last := by
  rcases steps.split with ⟨middle, before, after⟩
  cases after with
  | cons step rest =>
      rcases step with ⟨rfl, step⟩
      exact ⟨before, step, rest⟩

/-- What every step keeps holds at the end of a history. -/
theorem Steps.preserves (holds : Activity E → Prop) {history : List (Moment E)}
    (steps : Steps activity history last) (sound : activity.Sound) (start : holds activity)
    (keeps : ∀ {activity happening effects next}, Sound activity → holds activity →
      Step activity happening effects next → holds next) : last.Sound ∧ holds last := by
  induction steps with
  | nil => exact ⟨sound, start⟩
  | cons step rest ih => exact ih (step.sound sound) (keeps sound start step.2)

theorem Steps.sound {history : List (Moment E)} (steps : Steps activity history last)
    (sound : activity.Sound) : last.Sound :=
  (steps.preserves (fun _ => True) sound trivial fun _ _ _ => trivial).1

theorem sound_run (config : KernelConfig) (registry : ImageRegistry E) (moves : List Move) :
    ((boot config registry).run moves).2.Sound :=
  (steps_run (sound_boot config registry) moves).sound (sound_boot config registry)

theorem no_embryo_run (config : KernelConfig) (registry : ImageRegistry E) (moves : List Move)
    (pid : Pid) : ((boot config registry).run moves).2.kernel.table.stateOf? pid ≠ some .embryo := by
  have kept := (steps_run (sound_boot config registry) moves).preserves
    (fun activity => ∀ pid, activity.kernel.table.stateOf? pid ≠ some .embryo)
    (sound_boot config registry) ?_ (fun _ none step => step.no_embryo none)
  · exact kept.2 pid
  · intro pid state
    cases state

/-- What is known of a moment of a history that begins soundly. -/
theorem Steps.of_mem {history : List (Moment E)} (steps : Steps activity history last)
    (sound : activity.Sound) (member : moment ∈ history) :
    moment.before.Sound ∧
      Step moment.before moment.happening (signals moment.effects) moment.after := by
  rcases List.append_of_mem member with ⟨earlier, later, rfl⟩
  rcases steps.cut with ⟨before, step, _⟩
  exact ⟨before.sound sound, step⟩

end Activity

end Lifecycle
