import Lifecycle.Proofs.Frames
import Lifecycle.Proofs.ProcessHistory

/-!
# Powering off

In an orderly session one process is booted, and every later call is made by a process that runs and
has no unfinished call of its own. This file proves that such a session stops the machine only when
no creation and no wait of any process is pending, and that it never runs out of processes silently.

Only states are counted when a process asks to halt or ends last, and calls that are pending are not.
What makes up for this is that the caller of every pending call runs: a process with an unfinished
call cannot end, and a creation that is withdrawn takes away its own process, which is younger than
every process that has a call pending around it. So the last process that runs is the only one that
could have a call pending, and it has none.

The creation of the first process is the only one without a caller. As long as it is pending, it may
take away the last process that runs; once it has returned, only an exit can, and that stops the
machine.
-/

namespace Lifecycle

/-- The process that made a pending call; the first process is created by nobody. -/
def PendingCall.caller? : PendingCall → Option Pid
  | creation parent _ => parent
  | wait caller _ => some caller

/-- The process that a pending call creates. -/
def PendingCall.created? : PendingCall → Option Pid
  | creation _ pid => some pid
  | wait _ _ => none

/-- The call creates the first process. -/
def PendingCall.isRoot (call : PendingCall) : Bool := call.caller?.isNone

@[simp]
theorem PendingCall.isRoot_creation (parent : Option Pid) (pid : Pid) :
    (creation parent pid).isRoot = parent.isNone := rfl

@[simp]
theorem PendingCall.isRoot_wait (caller target : Pid) : (wait caller target).isRoot = false := rfl

/-- The creation of the first process returned. -/
def Happening.bootsRoot : Happening → Bool
  | .created parent _ => parent.isNone
  | _ => false

namespace Activity

variable {E : Type} {activity next last : Activity E} {happening : Happening}
  {effects : List Effect} {history : List (Moment E)} {caller : Pid}

/-! ### Orderly sessions -/

/-- The process runs and has no unfinished call. -/
def Free (activity : Activity E) (caller : Pid) : Prop :=
  activity.kernel.table.stateOf? caller = some .running ∧
    ∀ call ∈ activity.pending, call.caller? ≠ some caller

instance (activity : Activity E) (caller : Pid) : Decidable (activity.Free caller) :=
  inferInstanceAs (Decidable (_ ∧ _))

/-- The engine comes back to a pending call, or a free process makes a new one. -/
def Permits (activity : Activity E) : Move → Prop
  | .spawn none _ _ => False
  | .spawn (some caller) _ _ => activity.Free caller
  | .answer _ => True
  | .join caller _ => activity.Free caller
  | .resume => True
  | .giveUp => True
  | .exit caller _ => activity.Free caller
  | .halt caller => activity.Free caller

instance (activity : Activity E) : DecidablePred activity.Permits
  | .spawn none _ _ => inferInstanceAs (Decidable False)
  | .spawn (some caller) _ _ => inferInstanceAs (Decidable (activity.Free caller))
  | .answer _ => inferInstanceAs (Decidable True)
  | .join caller _ => inferInstanceAs (Decidable (activity.Free caller))
  | .resume => inferInstanceAs (Decidable True)
  | .giveUp => inferInstanceAs (Decidable True)
  | .exit caller _ => inferInstanceAs (Decidable (activity.Free caller))
  | .halt caller => inferInstanceAs (Decidable (activity.Free caller))

/-- The activity after a move; one that does not fit is skipped. -/
def moved (activity : Activity E) (move : Move) : Activity E :=
  ((activity.step move).map Moment.after).getD activity

/-- Every move is permitted when it is made. -/
def Orderly : Activity E → List Move → Prop
  | _, [] => True
  | activity, move :: moves => activity.Permits move ∧ Orderly (activity.moved move) moves

instance decidableOrderly : (activity : Activity E) → DecidablePred activity.Orderly
  | _, [] => inferInstanceAs (Decidable True)
  | activity, move :: moves =>
    have := decidableOrderly (activity.moved move) moves
    inferInstanceAs (Decidable (activity.Permits move ∧ Orderly (activity.moved move) moves))

/-! ### What keeps a session in order -/

/-- The callers of all pending calls run, and they are older than what is created inside their calls. -/
structure Calm (activity : Activity E) : Prop where
  running : ∀ call ∈ activity.pending, ∀ caller, call.caller? = some caller →
    activity.kernel.table.stateOf? caller = some .running
  no_embryo : ∀ pid, activity.kernel.table.stateOf? pid ≠ some .embryo
  older : activity.pending.Pairwise fun inner outer => ∀ pid caller, inner.created? = some pid →
    outer.caller? = some caller → caller.number < pid.number
  parent_older : ∀ parent pid, .creation (some parent) pid ∈ activity.pending →
    parent.number < pid.number

/-- What the permission of a move says about what happens then. -/
def Entitled (activity : Activity E) : Happening → Prop
  | .refused parent _ => ∃ caller, parent = some caller ∧ activity.Free caller
  | .launched parent _ => ∃ caller, parent = some caller ∧ activity.Free caller
  | .created _ _ => True
  | .withdrawn _ _ _ => True
  | .suspended caller _ => activity.kernel.table.stateOf? caller = some .running
  | .joined caller _ _ => activity.kernel.table.stateOf? caller = some .running
  | .givenUp _ _ => True
  | .exited caller _ => activity.Free caller
  | .halted caller _ => activity.Free caller

theorem entitled_look {target : Pid} {outer : List PendingCall}
    (running : activity.kernel.table.stateOf? caller = some .running) :
    activity.Entitled (activity.look caller target outer).happening := by
  simp only [look]
  split <;> exact running

theorem entitled_of_permits {move : Move} {moment : Moment E} (calm : activity.Calm)
    (permits : activity.Permits move) (fits : activity.step move = some moment) :
    activity.Entitled moment.happening := by
  cases move with
  | spawn parent name arguments =>
      cases parent with
      | none => exact permits.elim
      | some caller =>
          simp only [step, Option.some.injEq] at fits
          subst moment
          simp only [spawn]
          split <;> exact ⟨caller, rfl, permits⟩
  | answer refusal =>
      simp only [step] at fits
      split at fits
      · cases fits
        simp only [answer]
        split <;> trivial
      · cases fits
  | join caller target =>
      simp only [step, Option.some.injEq] at fits
      subst moment
      exact entitled_look permits.1
  | resume =>
      simp only [step] at fits
      split at fits
      · rename_i caller target outer pending
        cases fits
        apply entitled_look
        apply calm.running (.wait caller target)
        · simp [pending]
        · rfl
      · cases fits
  | giveUp =>
      simp only [step] at fits
      split at fits
      · cases fits
        trivial
      · cases fits
  | exit caller status =>
      simp only [step, Option.some.injEq] at fits
      subst moment
      exact permits
  | halt caller =>
      simp only [step, Option.some.injEq] at fits
      subst moment
      exact permits

/-- Calls return, and nobody stops who made one that is still pending. -/
theorem Calm.of_sublist {kernel : Kernel E} {outer : List PendingCall} (calm : activity.Calm)
    (shorter : outer.Sublist activity.pending)
    (running : ∀ call ∈ outer, ∀ other, call.caller? = some other →
      activity.kernel.table.stateOf? other = some .running →
        kernel.table.stateOf? other = some .running)
    (no_embryo : ∀ pid, kernel.table.stateOf? pid ≠ some .embryo) : Calm ⟨kernel, outer⟩ := by
  refine ⟨?_, no_embryo, calm.older.sublist shorter, ?_⟩
  · intro call member other made
    exact running call member other made (calm.running call (shorter.subset member) other made)
  · intro parent pid member
    exact calm.parent_older parent pid (shorter.subset member)

theorem Calm.returned {kernel : Kernel E} {call : PendingCall} {outer : List PendingCall}
    (calm : Calm ⟨kernel, call :: outer⟩) : Calm ⟨kernel, outer⟩ := by
  apply calm.of_sublist (List.sublist_cons_self call outer)
  · intro call member other made state
    exact state
  · exact calm.no_embryo

theorem Looks.sublist {target : Pid} {outer : List PendingCall}
    (looks : activity.Looks caller target outer) : outer.Sublist activity.pending := by
  rcases looks with pending | pending
  · simp [pending]
  · simp [pending]

theorem Calm.launched {kernel : Kernel E} {pending : List PendingCall} {parent : Option Pid}
    (calm : Calm ⟨kernel, pending⟩) (wellFormed : kernel.table.WellFormed) (space : AddressSpace)
    (loader : Loader E)
    (running : ∀ creator, parent = some creator → kernel.table.stateOf? creator = some .running) :
    Calm ⟨kernel.launched parent space loader,
      .creation parent ⟨kernel.table.nextPid⟩ :: pending⟩ := by
  -- Every process that has a record is older than the newcomer.
  have older : ∀ other, kernel.table.stateOf? other = some .running →
      other.number < kernel.table.nextPid := by
    intro other state
    rcases ProcessTable.stateOf?_eq_some_iff.mp state with ⟨record, present, _⟩
    exact wellFormed.below_next present
  have kept : ∀ other, kernel.table.stateOf? other = some .running →
      (kernel.launched parent space loader).table.stateOf? other = some .running := by
    intro other state
    have different := Pid.ne_of_lt (older other state)
    simp only [Kernel.launched, ProcessTable.stateOf?_activated, ProcessTable.stateOf?_entered]
    simp [different, Ne.symm different, state]
  refine ⟨?_, ?_, ?_, ?_⟩
  · intro call member other made
    rcases List.mem_cons.mp member with rfl | before
    · exact kept other (running other made)
    · exact kept other (calm.running call before other made)
  · intro pid
    simp only [Kernel.launched, ProcessTable.stateOf?_activated, ProcessTable.stateOf?_entered]
    by_cases newcomer : pid = ⟨kernel.table.nextPid⟩
    · simp [newcomer]
    · simpa [newcomer, Ne.symm newcomer] using calm.no_embryo pid
  · apply List.pairwise_cons.mpr
    refine ⟨?_, calm.older⟩
    intro call member pid other created made
    cases created
    exact older other (calm.running call member other made)
  · intro other pid member
    rcases List.mem_cons.mp member with same | before
    · cases same
      exact older other (running other rfl)
    · exact calm.parent_older other pid before

theorem Step.calm (step : Step activity happening effects next) (sound : activity.Sound)
    (calm : activity.Calm) (entitled : activity.Entitled happening) : next.Calm := by
  have complete := step.no_embryo calm.no_embryo
  cases step with
  | refused refuses => exact calm
  | launched inRange known built =>
      rcases entitled with ⟨creator, rfl, free⟩
      apply calm.launched sound.wellFormed
      intro other same
      cases same
      exact free.1
  | created => exact calm.returned
  | withdrawn =>
      rename_i kernel outer parent pid cause
      have younger := (List.pairwise_cons.mp calm.older).1
      apply calm.returned.of_sublist (List.Sublist.refl outer)
      · intro call member other made state
        have before := younger call member pid other rfl made
        have different : pid ≠ other := by
          intro same
          subst same
          omega
        rw [Kernel.fst_abandon]
        simp only [ProcessTable.stateOf?_withdraw]
        rw [if_neg different]
        exact state
      · exact complete
  | suspended looks child unfinished =>
      rename_i outer waiter target
      have inside : Calm ⟨{ activity.kernel with
          waiters := activity.kernel.waiters.add target waiter }, outer⟩ :=
        calm.of_sublist looks.sublist (fun _ _ _ _ state => state) calm.no_embryo
      refine ⟨?_, inside.no_embryo, ?_, ?_⟩
      · intro call member other made
        rcases List.mem_cons.mp member with rfl | before
        · cases made
          exact entitled
        · exact inside.running call before other made
      · apply List.pairwise_cons.mpr
        refine ⟨?_, inside.older⟩
        intro call member pid other created
        cases created
      · intro other pid member
        rcases List.mem_cons.mp member with impossible | before
        · cases impossible
        · exact inside.parent_older other pid before
  | turnedDown looks stranger =>
      exact calm.of_sublist looks.sublist (fun _ _ _ _ state => state) calm.no_embryo
  | collected looks child ended =>
      rename_i outer collector target termination
      apply calm.of_sublist looks.sublist
      · intro call member other made state
        rw [ProcessTable.stateOf?_collected]
        have different : target ≠ other := by
          intro same
          subst same
          rw [ended] at state
          cases state
        rw [if_neg different]
        exact state
      · exact complete
  | givenUp => exact calm.returned
  | exitIgnored idle => exact calm
  | departed running =>
      rename_i kernel pending ending status
      apply calm.of_sublist (List.Sublist.refl pending)
      · intro call member other made state
        have different : ending ≠ other := by
          intro same
          subst same
          exact entitled.2 call member made
        simp only [Kernel.departed, ProcessTable.stateOf?_terminated, if_neg different]
        exact state
      · exact complete
  | haltGranted last => exact calm
  | haltRefused busy => exact calm

/-- What holds at every moment of an orderly session after the first one. -/
structure Proper (moment : Moment E) : Prop where
  sound : moment.before.Sound
  calm : moment.before.Calm
  entitled : moment.before.Entitled moment.happening

theorem proper_run {moves : List Move} (sound : activity.Sound) (calm : activity.Calm)
    (orderly : activity.Orderly moves) : ∀ moment ∈ (activity.run moves).1, Proper moment := by
  induction moves generalizing activity with
  | nil => simp [run]
  | cons move moves ih =>
      rcases orderly with ⟨permits, orderly⟩
      cases fits : activity.step move with
      | none =>
          have same : activity.moved move = activity := by simp [moved, fits]
          rw [same] at orderly
          simp only [run, fits]
          exact ih sound calm orderly
      | some moment =>
          have same : activity.moved move = moment.after := by simp [moved, fits]
          rw [same] at orderly
          have step := isStep_step sound.wellFormed fits
          have entitled := entitled_of_permits calm permits fits
          have calmAfter := step.2.calm sound calm entitled
          rw [run_cons_of_step fits]
          intro other member
          rcases List.mem_cons.mp member with rfl | later
          · refine ⟨?_, ?_, ?_⟩
            · rw [step.1]
              exact sound
            · rw [step.1]
              exact calm
            · rw [step.1]
              exact entitled
          · exact ih (step.sound sound) calmAfter orderly other later

/-! ### Stopping -/

theorem mem_signals {effect : Effect} (told : effect.isSignal = true) :
    effect ∈ signals effects ↔ effect ∈ effects := by
  simp [signals, told]

/-- No creation and no wait of any process is pending. -/
def Quiet (activity : Activity E) : Prop :=
  ∀ call ∈ activity.pending, ∃ pid, call = .creation none pid

/-- No process runs. -/
def Idle (activity : Activity E) : Prop :=
  ∀ pid, activity.kernel.table.stateOf? pid ≠ some .running

/-- The last process that runs is the only one that could have a call pending. -/
theorem Calm.quiet (calm : activity.Calm) (free : activity.Free caller)
    (only : ∀ other, activity.kernel.table.stateOf? other = some .running → other = caller) :
    activity.Quiet := by
  intro call member
  cases made : call.caller? with
  | some other =>
      have same := only other (calm.running call member other made)
      subst other
      exact absurd made (free.2 call member)
  | none =>
      cases call with
      | creation parent pid =>
          cases made
          exact ⟨pid, rfl⟩
      | wait waiter target => cases made

theorem Step.quiet_of_allExited (step : Step activity happening effects next)
    (sound : activity.Sound) (calm : activity.Calm) (entitled : activity.Entitled happening)
    (stops : .powerOff .allExited ∈ effects) : activity.Quiet ∧ next.Idle := by
  cases step with
  | refused refuses =>
      cases refuses <;> simp [Kernel.refusalSignals] at stops
  | departed running =>
      rename_i kernel pending ending status
      have alone : kernel.table.running = 1 := by
        by_contra others
        simp [Kernel.departureSignals, others] at stops
      have last : kernel.table.isLastRunning ending = true := by
        simp [ProcessTable.isLastRunning, alone, running]
      have only := (sound.wellFormed.isLastRunning_iff.mp last).2
      refine ⟨calm.quiet entitled only, ?_⟩
      intro pid
      simp only [Kernel.departed, ProcessTable.stateOf?_terminated]
      split
      · cases kernel.table.stateOf? pid <;> simp
      · rename_i different
        intro state
        exact different (only pid state).symm
  | haltGranted last => simp at stops
  | _ => simp at stops

theorem Step.quiet_of_requested (step : Step activity happening effects next)
    (sound : activity.Sound) (calm : activity.Calm) (entitled : activity.Entitled happening)
    (stops : .powerOff (.requested caller) ∈ effects) :
    next = activity ∧ activity.Quiet ∧
      ∀ other, activity.kernel.table.stateOf? other = some .running ↔ other = caller := by
  cases step with
  | refused refuses =>
      cases refuses <;> simp [Kernel.refusalSignals] at stops
  | departed running =>
      rename_i kernel pending ending status
      simp only [Kernel.departureSignals, List.mem_append, List.mem_map] at stops
      rcases stops with ⟨_, _, impossible⟩ | told
      · cases impossible
      · split at told <;> simp at told
  | haltGranted last =>
      simp only [List.mem_singleton, Effect.powerOff.injEq, HaltReason.requested.injEq] at stops
      subst caller
      rcases sound.wellFormed.isLastRunning_iff.mp last with ⟨state, only⟩
      refine ⟨rfl, calm.quiet entitled only, ?_⟩
      intro other
      constructor
      · exact only other
      · intro same
        rw [same]
        exact state
  | _ => simp at stops

/-- Where no process runs, nobody makes a call. -/
theorem Step.idle (step : Step activity happening effects next)
    (entitled : activity.Entitled happening) (idle : activity.Idle) :
    next.Idle ∧ (∀ parent pid, happening ≠ .launched parent pid) ∧
      .powerOff .allExited ∉ effects := by
  cases step with
  | refused refuses =>
      rcases entitled with ⟨caller, _, free⟩
      exact absurd free.1 (idle caller)
  | launched inRange known built =>
      rcases entitled with ⟨caller, _, free⟩
      exact absurd free.1 (idle caller)
  | created => exact ⟨idle, by simp, by simp⟩
  | withdrawn =>
      refine ⟨?_, by simp, by simp⟩
      intro pid
      rw [Kernel.fst_abandon]
      simp only [ProcessTable.stateOf?_withdraw]
      split
      · simp
      · exact idle pid
  | suspended looks child unfinished => exact absurd entitled (idle _)
  | turnedDown looks stranger => exact absurd entitled (idle _)
  | collected looks child ended => exact absurd entitled (idle _)
  | givenUp => exact ⟨idle, by simp, by simp⟩
  | exitIgnored stopped => exact absurd entitled.1 (idle _)
  | departed running => exact absurd running (idle _)
  | haltGranted last => exact absurd entitled.1 (idle _)
  | haltRefused busy => exact absurd entitled.1 (idle _)

theorem Steps.idle (steps : Steps activity history last)
    (proper : ∀ moment ∈ history, Proper moment) (idle : activity.Idle) :
    ∀ moment ∈ history, (∀ parent pid, moment.happening ≠ .launched parent pid) ∧
      .powerOff .allExited ∉ moment.effects := by
  induction steps with
  | nil => simp
  | cons step rest ih =>
      rename_i activity last first history
      have entitled := (proper first List.mem_cons_self).entitled
      rw [step.1] at entitled
      rcases step.2.idle entitled idle with ⟨idleAfter, unborn, untold⟩
      intro moment member
      rcases List.mem_cons.mp member with rfl | later
      · refine ⟨unborn, ?_⟩
        rw [← mem_signals rfl]
        exact untold
      · apply ih _ idleAfter moment later
        intro other after
        exact proper other (List.mem_cons_of_mem _ after)

/-! ### The creation of the first process -/

/-- How often the creation of the first process is pending or has returned. -/
def rootCalls (history : List (Moment E)) (activity : Activity E) : Nat :=
  history.countP (fun moment => moment.happening.bootsRoot) +
    activity.pending.countP PendingCall.isRoot

/-- As long as the first process may still be withdrawn, it is created by a single call. -/
structure Watched (history : List (Moment E)) (activity : Activity E) : Prop where
  single : rootCalls history activity ≤ 1
  awake : rootCalls history activity = 0 ∨ ¬activity.Idle ∨
    ∃ stop ∈ history, .powerOff .allExited ∈ stop.effects

/-- After a step that leaves a process running or stops the machine, little remains to be shown. -/
theorem Watched.of_le {moment : Moment E} (watched : Watched history activity)
    (fewer : rootCalls (history ++ [moment]) next ≤ rootCalls history activity)
    (awake : ¬activity.Idle → rootCalls (history ++ [moment]) next = 0 ∨ ¬next.Idle ∨
      .powerOff .allExited ∈ moment.effects) : Watched (history ++ [moment]) next := by
  rcases watched with ⟨single, before⟩
  refine ⟨fewer.trans single, ?_⟩
  rcases before with none | running | ⟨stop, member, told⟩
  · left
    omega
  · rcases awake running with none | still | told
    · exact Or.inl none
    · exact Or.inr (Or.inl still)
    · exact Or.inr (Or.inr ⟨moment, by simp, told⟩)
  · exact Or.inr (Or.inr ⟨stop, List.mem_append_left _ member, told⟩)

theorem rootCalls_append (moment : Moment E) :
    rootCalls (history ++ [moment]) next =
      history.countP (fun moment => moment.happening.bootsRoot) +
        (if moment.happening.bootsRoot then 1 else 0) + next.pending.countP PendingCall.isRoot := by
  simp [rootCalls, List.countP_append, List.countP_cons]

theorem Looks.countP_eq {target : Pid} {outer : List PendingCall}
    (looks : activity.Looks caller target outer) :
    activity.pending.countP PendingCall.isRoot = outer.countP PendingCall.isRoot := by
  rcases looks with pending | pending
  · rw [pending]
  · rw [pending, List.countP_cons_of_neg]
    simp

theorem not_idle_of_running (pid : Pid)
    (state : activity.kernel.table.stateOf? pid = some .running) : ¬activity.Idle := fun idle =>
  idle pid state

/-- The first process is created by no more calls than it was. -/
theorem IsStep.rootCalls_le {moment : Moment E} (step : activity.IsStep moment)
    (proper : Proper moment) :
    rootCalls (history ++ [moment]) moment.after ≤ rootCalls history activity := by
  rcases moment with ⟨happening, effects, before, after⟩
  rcases step with ⟨rfl, step⟩
  have entitled := proper.entitled
  simp only at step entitled
  rw [rootCalls_append]
  simp only [rootCalls]
  generalize history.countP (fun moment => moment.happening.bootsRoot) = returned
  generalize signals effects = told at step
  cases step with
  | launched inRange known built =>
      rcases entitled with ⟨creator, rfl, free⟩
      simp [Happening.bootsRoot]
  | created =>
      rename_i kernel outer parent pid
      cases parent with
      | none =>
          simp only [Happening.bootsRoot, List.countP_cons, PendingCall.isRoot_creation,
            Option.isNone_none, if_true]
          omega
      | some creator => simp [Happening.bootsRoot]
  | withdrawn =>
      simp only [Happening.bootsRoot, List.countP_cons, Bool.false_eq_true, if_false]
      omega
  | suspended looks child unfinished =>
      simp [Happening.bootsRoot, looks.countP_eq]
  | turnedDown looks stranger => simp [Happening.bootsRoot, looks.countP_eq]
  | collected looks child ended => simp [Happening.bootsRoot, looks.countP_eq]
  | givenUp => simp [Happening.bootsRoot]
  | _ => simp [Happening.bootsRoot]

/-- Whatever leaves no process running stops the machine or withdraws the first process. -/
theorem IsStep.awake {moment : Moment E} (step : activity.IsStep moment) (proper : Proper moment)
    (watched : Watched history activity) (awake : ¬activity.Idle) :
    rootCalls (history ++ [moment]) moment.after = 0 ∨ ¬moment.after.Idle ∨
      .powerOff .allExited ∈ moment.effects := by
  rcases moment with ⟨happening, effects, before, after⟩
  rcases step with ⟨rfl, step⟩
  rcases proper with ⟨sound, calm, entitled⟩
  simp only at step sound calm entitled
  simp only
  rw [← mem_signals rfl]
  generalize signals effects = told at step ⊢
  cases step with
  | launched inRange known built =>
      rcases entitled with ⟨creator, rfl, free⟩
      right
      left
      rename_i kernel pending name arguments entry space loader
      apply not_idle_of_running ⟨kernel.table.nextPid⟩
      simp [Kernel.launched, ProcessTable.stateOf?_activated, ProcessTable.stateOf?_entered]
  | withdrawn =>
      rename_i kernel outer parent pid cause
      cases parent with
      | none =>
          -- No other creation of the first process is pending, and none has returned.
          left
          have single := watched.single
          rw [rootCalls_append]
          simp only [rootCalls, List.countP_cons, PendingCall.isRoot_creation, Option.isNone_none,
            if_true] at single
          simp only [Happening.bootsRoot, Bool.false_eq_true, if_false]
          simp only [Happening.bootsRoot] at single
          omega
      | some creator =>
          right
          left
          have state := calm.running (.creation (some creator) pid) List.mem_cons_self creator rfl
          have older := calm.parent_older creator pid List.mem_cons_self
          apply not_idle_of_running creator
          rw [Kernel.fst_abandon]
          simp only [ProcessTable.stateOf?_withdraw]
          rw [if_neg]
          · exact state
          · intro same
            subst same
            omega
  | collected looks child ended =>
      right
      left
      rename_i outer collector target termination
      have runs : before.kernel.table.stateOf? collector = some .running := entitled
      apply not_idle_of_running collector
      rw [ProcessTable.stateOf?_collected, if_neg]
      · exact runs
      · intro same
        subst same
        rw [ended] at runs
        cases runs
  | departed running =>
      rename_i kernel pending ending status
      right
      by_cases alone : kernel.table.running = 1
      · right
        simp [Kernel.departureSignals, alone]
      · left
        intro idle
        apply alone
        have last : kernel.table.isLastRunning ending = true := by
          apply sound.wellFormed.isLastRunning_iff.mpr
          refine ⟨running, ?_⟩
          intro other state
          by_contra different
          apply idle other
          simp only [Kernel.departed, ProcessTable.stateOf?_terminated]
          rw [if_neg (Ne.symm different)]
          exact state
        simp only [ProcessTable.isLastRunning, Bool.and_eq_true, beq_iff_eq] at last
        exact last.1
  | _ => exact Or.inr (Or.inl awake)

theorem IsStep.watched {moment : Moment E} (step : activity.IsStep moment)
    (proper : Proper moment) (watched : Watched history activity) :
    Watched (history ++ [moment]) moment.after :=
  watched.of_le (step.rootCalls_le proper) (step.awake proper watched)

theorem Steps.watched {prior : List (Moment E)} (steps : Steps activity history last)
    (proper : ∀ moment ∈ history, Proper moment) (watched : Watched prior activity) :
    Watched (prior ++ history) last := by
  induction steps generalizing prior with
  | nil =>
      rw [List.append_nil]
      exact watched
  | cons step rest ih =>
      rename_i activity last first history
      rw [List.append_cons]
      apply ih
      · intro other later
        exact proper other (List.mem_cons_of_mem _ later)
      · exact step.watched (proper first List.mem_cons_self) watched

theorem Steps.append {middle : Activity E} {later : List (Moment E)}
    (before : Steps activity history middle) (after : Steps middle later last) :
    Steps activity (history ++ later) last := by
  induction before with
  | nil => exact after
  | cons step rest ih => exact .cons step (ih after)

/-- What the watch says at any moment of a history that follows a first one. -/
theorem Steps.watched_of_split {first moment : Moment E} {earlier later : List (Moment E)}
    (steps : Steps first.after history last) (proper : ∀ moment ∈ history, Proper moment)
    (watched : Watched [first] first.after) (split : first :: history = earlier ++ moment :: later) :
    Watched (earlier ++ [moment]) moment.after := by
  cases earlier with
  | nil =>
      cases split
      exact watched
  | cons beginning earlier =>
      cases split
      rcases steps.cut with ⟨before, step, _⟩
      have reached := before.append (.cons ⟨rfl, step⟩ .nil)
      apply reached.watched _ watched
      intro other member
      apply proper
      rcases List.mem_append.mp member with there | here
      · exact List.mem_append_left _ there
      · rw [List.mem_singleton.mp here]
        simp

theorem Watched.told (watched : Watched history activity)
    (created : ∃ returned ∈ history, ∃ pid, returned.happening = .created none pid)
    (idle : activity.Idle) : ∃ stop ∈ history, .powerOff .allExited ∈ stop.effects := by
  rcases watched.awake with none | running | stopped
  · rcases created with ⟨returned, member, pid, boots⟩
    have counted : 0 < history.countP (fun moment => moment.happening.bootsRoot) := by
      apply List.countP_pos_iff.mpr
      exact ⟨returned, member, by simp [boots, Happening.bootsRoot]⟩
    simp only [rootCalls] at none
    omega
  · exact absurd idle running
  · exact stopped

/-! ### The first move -/

theorem calm_boot (config : KernelConfig) (registry : ImageRegistry E) :
    (boot config registry).Calm := by
  refine ⟨?_, ?_, List.Pairwise.nil, ?_⟩
  · intro call member
    cases member
  · intro pid
    have absent : (boot config registry).kernel.table.find? pid = none := rfl
    simp [ProcessTable.stateOf?, absent]
  · intro parent pid member
    cases member

/-- The first move creates the first process or none at all. -/
theorem spawn_boot_cases (config : KernelConfig) (registry : ImageRegistry E) (name : String)
    (arguments : List String) :
    let first := (boot config registry).spawn none name arguments
    (boot config registry).IsStep first ∧ first.after.Calm ∧ Watched [first] first.after ∧
      ∀ reason, .powerOff reason ∈ first.effects → reason = .pidSpaceExhausted := by
  intro first
  have sound := sound_boot config registry
  have step := isStep_spawn sound.wellFormed none name arguments
  refine ⟨step, ?_⟩
  rcases Kernel.prepare_cases sound.wellFormed none name arguments with
    ⟨cause, effects, answer, told, refuses⟩ | ⟨entry, space, loader, effects, answer, told, _⟩
  · have same : first = ⟨.refused none cause, effects, boot config registry, boot config registry⟩ := by
      simp only [first, spawn, answer]
    rw [same]
    refine ⟨calm_boot config registry, ⟨?_, ?_⟩, ?_⟩
    · simp [rootCalls, Happening.bootsRoot, boot]
    · left
      simp [rootCalls, Happening.bootsRoot, boot]
    · intro reason stops
      rw [← mem_signals rfl, told] at stops
      cases cause <;> simp_all [Kernel.refusalSignals]
  · have same : first = ⟨.launched none ⟨0⟩, effects, boot config registry,
        ⟨(boot config registry).kernel.launched none space loader, [.creation none ⟨0⟩]⟩⟩ := by
      simp only [first, spawn, answer]
      rfl
    rw [same]
    refine ⟨?_, ⟨?_, ?_⟩, ?_⟩
    · apply (calm_boot config registry).launched sound.wellFormed
      intro creator named
      cases named
    · simp [rootCalls, Happening.bootsRoot]
    · right
      left
      apply not_idle_of_running ⟨0⟩
      simp [Kernel.launched, ProcessTable.stateOf?_activated, ProcessTable.stateOf?_entered, boot,
        Kernel.boot, ProcessTable.ofMaxPid]
    · intro reason stops
      rw [← mem_signals rfl, told] at stops
      cases stops

/-- What the moments at which the machine is told to stop have in common. -/
structure StopsQuietly (total : Nat) (history : List (Moment E)) : Prop where
  /-- When all have exited, nothing is pending, nothing runs and all frames are free. -/
  all_exited : ∀ moment ∈ history, .powerOff .allExited ∈ moment.effects →
    moment.before.Quiet ∧ moment.after.Idle ∧
      (∀ pid, moment.after.kernel.table.stateOf? pid ≠ some .embryo) ∧
        moment.after.kernel.loader.pool.free.Perm (List.range (total % frameNumbers))
  /-- When a process halts the machine, it alone runs and owns the frames that are not free. -/
  requested : ∀ moment ∈ history, ∀ caller, .powerOff (.requested caller) ∈ moment.effects →
    moment.before.Quiet ∧
      (∀ other, moment.after.kernel.table.stateOf? other = some .running ↔ other = caller) ∧
        (∀ pid, moment.after.kernel.table.stateOf? pid ≠ some .embryo) ∧
          (moment.after.kernel.loader.pool.free ++ moment.after.kernel.table.framesOf caller).Perm
            (List.range (total % frameNumbers))
  once : (history.flatMap Moment.effects).count (.powerOff .allExited) ≤ 1
  final : ∀ {earlier stop later}, history = earlier ++ stop :: later →
    .powerOff .allExited ∈ stop.effects →
      ∀ moment ∈ later, ∀ parent pid, moment.happening ≠ .launched parent pid
  /-- Once the first process was created, no process runs only after the machine was stopped. -/
  not_silent : ∀ {earlier moment later}, history = earlier ++ moment :: later →
    (∃ returned ∈ earlier ++ [moment], ∃ pid, returned.happening = .created none pid) →
      moment.after.Idle → ∃ stop ∈ earlier ++ [moment], .powerOff .allExited ∈ stop.effects

theorem Steps.conserves_of_mem {config : KernelConfig} {registry : ImageRegistry E}
    {moment : Moment E} (steps : Steps (boot config registry) history last)
    (member : moment ∈ history) :
    Step moment.before moment.happening (signals moment.effects) moment.after ∧
      moment.after.kernel.Conserves config.physPages := by
  rcases List.append_of_mem member with ⟨earlier, later, rfl⟩
  rcases steps.cut with ⟨before, step, _⟩
  have reached : Steps (boot config registry) (earlier ++ [moment]) moment.after :=
    before.append (.cons ⟨rfl, step⟩ .nil)
  exact ⟨step, reached.conserves⟩

theorem Step.count_allExited (step : Step activity happening effects next) :
    effects.count (.powerOff .allExited) ≤ 1 := by
  cases step with
  | refused refuses => cases refuses <;> simp [Kernel.refusalSignals]
  | departed running =>
      rename_i kernel pending ending status
      have silent : ((kernel.waiters.waitersOf ending).map Effect.wake).count
          (.powerOff .allExited) = 0 := by
        rw [List.count_eq_zero]
        simp
      simp only [Kernel.departureSignals, List.count_append, silent]
      split <;> simp
  | haltGranted last => simp
  | _ => simp

theorem Steps.count_allExited (steps : Steps activity history last)
    (proper : ∀ moment ∈ history, Proper moment) :
    (history.flatMap Moment.effects).count (.powerOff .allExited) ≤ 1 := by
  induction steps with
  | nil => simp
  | cons step rest ih =>
      rename_i activity last first history
      have order := proper first List.mem_cons_self
      have others : ∀ moment ∈ history, Proper moment := by
        intro moment member
        exact proper moment (List.mem_cons_of_mem _ member)
      have here := step.2.count_allExited
      rw [count_signals rfl] at here
      rw [List.flatMap_cons, List.count_append]
      by_cases stops : .powerOff .allExited ∈ first.effects
      · have idle : first.after.Idle := by
          rcases order with ⟨sound, calm, entitled⟩
          rw [step.1] at sound calm entitled
          exact (step.2.quiet_of_allExited sound calm entitled ((mem_signals rfl).mpr stops)).2
        have silent : (history.flatMap Moment.effects).count (.powerOff .allExited) = 0 := by
          rw [List.count_eq_zero, List.mem_flatMap]
          rintro ⟨moment, member, again⟩
          exact (rest.idle others idle moment member).2 again
        omega
      · have none := List.count_eq_zero.mpr stops
        have later := ih others
        omega

end Activity

/-- While one process runs, it owns all the frames that are owned. -/
theorem ProcessTable.WellFormed.ownedFrames_perm {table : ProcessTable} {caller : Pid}
    (wellFormed : table.WellFormed)
    (alone : ∀ other, table.stateOf? other = some .running ↔ other = caller) :
    table.ownedFrames.Perm (table.framesOf caller) := by
  rcases stateOf?_eq_some_iff.mp ((alone caller).mpr rfl) with ⟨record, present, _⟩
  have others : (table.records.erase caller).sum frameWeight = 0 := by
    apply PidMap.sum_eq_zero
    intro other otherRecord found
    rw [PidMap.find?_erase] at found
    split at found
    · cases found
    · rename_i different
      apply frameWeight_of_space_eq_none
      have owner := wellFormed.space_iff found
      have stopped : otherRecord.state ≠ .running := by
        intro running
        have same := (alone other).mp (stateOf?_eq_some_iff.mpr ⟨otherRecord, found, running⟩)
        exact different same.symm
      simpa [stopped] using owner
  rw [← Multiset.coe_eq_coe, coe_ownedFrames, PidMap.sum_of_find?_eq_some frameWeight present,
    others, add_zero, framesOf_of_find?_eq_some present]
  rfl

namespace Activity

variable {E : Type}

/--
Whoever makes calls in an orderly session, the machine is told to stop only when nothing is pending,
it is told once that all have exited, and no process is left running only after it was told so.
-/
theorem stops_quietly (config : KernelConfig) (registry : ImageRegistry E) (name : String)
    (arguments : List String) (moves : List Move)
    (orderly : ((boot config registry).moved (.spawn none name arguments)).Orderly moves) :
    StopsQuietly config.physPages
      ((boot config registry).run (.spawn none name arguments :: moves)).1 := by
  have sound := sound_boot config registry
  rcases spawn_boot_cases config registry name arguments with ⟨begins, calm, watched, harmless⟩
  have fits : (boot config registry).step (.spawn none name arguments) =
      some ((boot config registry).spawn none name arguments) := rfl
  have steps := steps_run sound (.spawn none name arguments :: moves)
  rw [run_cons_of_step fits] at steps ⊢
  generalize (boot config registry).spawn none name arguments = first at *
  have same : (boot config registry).moved (.spawn none name arguments) = first.after := by
    simp [moved, fits]
  rw [same] at orderly
  have soundAfter := begins.sound sound
  have proper := proper_run soundAfter calm orderly
  have rest := steps_run soundAfter moves
  generalize (first.after.run moves).1 = history at *
  generalize (first.after.run moves).2 = last at *
  simp only at steps ⊢
  -- The first move never tells that a process halted the machine or that all exited.
  have late : ∀ moment ∈ first :: history, ∀ reason, reason ≠ .pidSpaceExhausted →
      .powerOff reason ∈ moment.effects → Proper moment := by
    intro moment member reason other stops
    rcases List.mem_cons.mp member with rfl | later
    · exact absurd (harmless reason stops) other
    · exact proper moment later
  refine ⟨?_, ?_, ?_, ?_, ?_⟩
  · intro moment member stops
    have order := late moment member .allExited (by simp) stops
    rcases steps.conserves_of_mem member with ⟨step, conserved⟩
    have calmAfter := step.calm order.sound order.calm order.entitled
    rcases step.quiet_of_allExited order.sound order.calm order.entitled
      ((mem_signals rfl).mpr stops) with ⟨quiet, idle⟩
    exact ⟨quiet, idle, calmAfter.no_embryo, conserved.idle idle⟩
  · intro moment member caller stops
    have order := late moment member (.requested caller) (by simp) stops
    rcases steps.conserves_of_mem member with ⟨step, conserved⟩
    have calmAfter := step.calm order.sound order.calm order.entitled
    have soundNext := step.sound order.sound
    rcases step.quiet_of_requested order.sound order.calm order.entitled
      ((mem_signals rfl).mpr stops) with ⟨unchanged, quiet, alone⟩
    rw [← unchanged] at alone
    refine ⟨quiet, alone, calmAfter.no_embryo, ?_⟩
    have owned := soundNext.wellFormed.ownedFrames_perm alone
    exact (owned.symm.append_left _).trans conserved.permuted
  · have none : first.effects.count (.powerOff .allExited) = 0 := by
      rw [List.count_eq_zero]
      intro stops
      have impossible := harmless .allExited stops
      cases impossible
    have once := rest.count_allExited proper
    rw [List.flatMap_cons, List.count_append]
    omega
  · intro earlier stop later split stops moment member
    rw [split] at steps late
    have order := late stop (by simp) .allExited (by simp) stops
    rcases steps.cut with ⟨_, step, after⟩
    have idle := (step.quiet_of_allExited order.sound order.calm order.entitled
      ((mem_signals rfl).mpr stops)).2
    have others : ∀ other ∈ later, Proper other := by
      intro other afterwards
      apply proper
      cases earlier with
      | nil =>
          cases split
          exact afterwards
      | cons beginning earlier =>
          cases split
          simp [afterwards]
    exact (after.idle others idle moment member).1
  · intro earlier moment later split created idle
    exact (rest.watched_of_split proper watched split).told created idle

/--
The first process creates two children inside its own start. One exits and is collected there, the
start of the other is refused, and the first process exits before its start is answered.
-/
def exitedInsideStart : List Move :=
  [.spawn (some ⟨0⟩) "a.coff" [], .exit ⟨1⟩ (some 7), .answer none, .join ⟨0⟩ ⟨1⟩,
    .spawn (some ⟨0⟩) "a.coff" [], .halt ⟨2⟩, .answer (some .noExecutionContext),
    .exit ⟨0⟩ none, .answer none]

theorem stops_quietly_inside_start :
    ((boot {} (.ofList [⟨"a.coff", 1, ()⟩])).moved (.spawn none "a.coff" [])).Orderly
        exitedInsideStart ∧
      StopsQuietly 256
        ((boot {} (.ofList [⟨"a.coff", 1, ()⟩])).run
          (.spawn none "a.coff" [] :: exitedInsideStart)).1 := by
  have orderly : ((boot {} (.ofList [⟨"a.coff", 1, ()⟩])).moved
      (.spawn none "a.coff" [])).Orderly exitedInsideStart := by
    decide +kernel
  exact ⟨orderly, stops_quietly {} (.ofList [⟨"a.coff", 1, ()⟩]) "a.coff" [] exitedInsideStart
    orderly⟩

end Activity

end Lifecycle
