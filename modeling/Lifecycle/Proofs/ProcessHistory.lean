import Lifecycle.Proofs.Activity

/-!
# Histories of one process

A history tells in which state a process is, from the moment at which it was launched: it runs until
the first time it exits, then it keeps its termination, and the first join that collects it removes
its record. As long as its creation is not withdrawn, the process table agrees with the history, and
it names the caller of the creation as the parent.

That a pid is not handed out again follows from the order of pids. Once a creation has returned, its
pid lies below the counter, and the counter cannot go back to it without a pending creation of that
pid. The pid of a process that was collected while its creation was pending is gone for good too,
because there is no record left to withdraw.
-/

namespace Lifecycle

/-! ### What a history says about one process -/

/-- A join collected the process. -/
def Happening.collects (pid : Pid) : Happening → Bool
  | .joined _ target (.ok _) => decide (target = pid)
  | _ => false

theorem Happening.collects_iff {pid : Pid} {happening : Happening} :
    happening.collects pid = true ↔
      ∃ caller termination, happening = .joined caller pid (.ok termination) := by
  unfold Happening.collects
  split
  · simp
  · rename_i other
    simp only [Bool.false_eq_true, false_iff]
    rintro ⟨caller, termination, rfl⟩
    exact other caller pid termination rfl

/-- The creation of the process begins or returns. -/
inductive Happening.Settles (pid : Pid) : Happening → Prop
  | launched {parent : Option Pid} : Settles pid (.launched parent pid)
  | created {parent : Option Pid} : Settles pid (.created parent pid)
  | withdrawn {parent : Option Pid} {cause : ExecError} :
      Settles pid (.withdrawn parent pid cause)

/-- The state of a process after something happened; there is none once it was collected. -/
def advance (pid : Pid) (state : Option ProcessState) : Happening → Option ProcessState
  | .exited caller status =>
      if caller = pid ∧ state = some .running then some (.exited (.ofStatus status)) else state
  | .joined _ target (.ok _) => if target = pid then none else state
  | _ => state

/-- The state of a process after a history, from a state before it. -/
def stateAfter {E : Type} (pid : Pid) (state : Option ProcessState) (history : List (Moment E)) :
    Option ProcessState :=
  history.foldl (fun state moment => advance pid state moment.happening) state

section StateAfter

variable {E : Type} {pid : Pid} {state : Option ProcessState} {history : List (Moment E)}

@[simp]
theorem stateAfter_nil : stateAfter pid state ([] : List (Moment E)) = state := rfl

@[simp]
theorem stateAfter_cons (moment : Moment E) :
    stateAfter pid state (moment :: history) =
      stateAfter pid (advance pid state moment.happening) history := rfl

theorem stateAfter_append (earlier later : List (Moment E)) :
    stateAfter pid state (earlier ++ later) = stateAfter pid (stateAfter pid state earlier) later :=
  List.foldl_append

/-- A process that does not run keeps its state until it is collected. -/
theorem advance_of_not_running (idle : state ≠ some .running) (happening : Happening) :
    advance pid state happening = state ∨ advance pid state happening = none := by
  unfold advance
  split
  · simp [idle]
  · split
    · exact Or.inr rfl
    · exact Or.inl rfl
  · exact Or.inl rfl

theorem stateAfter_none (history : List (Moment E)) : stateAfter pid none history = none := by
  induction history with
  | nil => rfl
  | cons moment history ih =>
      have idle : none ≠ some ProcessState.running := by simp
      rcases advance_of_not_running idle moment.happening with kept | gone
      · rw [stateAfter_cons, kept]
        exact ih
      · rw [stateAfter_cons, gone]
        exact ih

theorem stateAfter_exited (termination : Termination) (history : List (Moment E)) :
    stateAfter pid (some (.exited termination)) history = some (.exited termination) ∨
      stateAfter pid (some (.exited termination)) history = none := by
  induction history with
  | nil => exact Or.inl rfl
  | cons moment history ih =>
      have idle : some (ProcessState.exited termination) ≠ some .running := by simp
      rcases advance_of_not_running idle moment.happening with kept | gone
      · rw [stateAfter_cons, kept]
        exact ih
      · rw [stateAfter_cons, gone]
        exact Or.inr (stateAfter_none history)

/-- A process that runs is ended by its exit, and by nothing else than an exit or a collection. -/
theorem advance_running_cases (happening : Happening) :
    (∃ status, happening = .exited pid status ∧
        advance pid (some .running) happening = some (.exited (.ofStatus status))) ∨
      (∀ status, happening ≠ .exited pid status) ∧
        (advance pid (some .running) happening = some .running ∨
          advance pid (some .running) happening = none) := by
  cases happening with
  | exited caller status =>
      by_cases same : caller = pid
      · subst caller
        exact Or.inl ⟨status, rfl, by simp [advance]⟩
      · exact Or.inr ⟨by simp [same], by simp [advance, same]⟩
  | joined caller target result =>
      right
      refine ⟨by simp, ?_⟩
      cases result with
      | error cause => exact Or.inl rfl
      | ok termination =>
          by_cases same : target = pid
          · exact Or.inr (by simp [advance, same])
          · exact Or.inl (by simp [advance, same])
  | _ => exact Or.inr ⟨by simp, Or.inl rfl⟩

/-- A process that ended with a termination exited with it, and never before. -/
theorem exists_exit_of_stateAfter {termination : Termination}
    (ended : stateAfter pid (some .running) history = some (.exited termination)) :
    ∃ earlier exit later status, history = earlier ++ exit :: later ∧
      exit.happening = .exited pid status ∧ termination = .ofStatus status ∧
        stateAfter pid (some .running) earlier = some .running ∧
          ∀ moment ∈ earlier, ∀ status, moment.happening ≠ .exited pid status := by
  induction history with
  | nil => simp at ended
  | cons moment history ih =>
      -- The first moment either is the exit in question or leaves the process running.
      rw [stateAfter_cons] at ended
      rcases advance_running_cases moment.happening with ⟨status, exits, next⟩ | ⟨other, next⟩
      · rw [next] at ended
        rcases stateAfter_exited (.ofStatus status) history with kept | gone
        · rw [kept] at ended
          cases ended
          exact ⟨[], moment, history, status, rfl, exits, rfl, rfl, by simp⟩
        · rw [gone] at ended
          cases ended
      · rcases next with next | next
        · rw [next] at ended
          rcases ih ended with ⟨earlier, exit, later, status, rfl, exits, same, running, first⟩
          refine ⟨moment :: earlier, exit, later, status, rfl, exits, same, ?_, ?_⟩
          · rw [stateAfter_cons, next]
            exact running
          · intro before member
            rcases List.mem_cons.mp member with rfl | member
            · exact other
            · exact first before member
        · rw [next, stateAfter_none] at ended
          cases ended

/-- A process that exited does not run any more. -/
theorem stateAfter_ne_running {moment : Moment E} {status : Option Int32} (member : moment ∈ history)
    (exits : moment.happening = .exited pid status) :
    stateAfter pid (some .running) history ≠ some .running := by
  induction history with
  | nil => cases member
  | cons first history ih =>
      rw [stateAfter_cons]
      rcases advance_running_cases first.happening with ⟨status, _, next⟩ | ⟨other, next⟩
      · rw [next]
        rcases stateAfter_exited (.ofStatus status) history with kept | gone
        · rw [kept]
          simp
        · rw [gone]
          simp
      · rcases List.mem_cons.mp member with rfl | member
        · exact absurd exits (other status)
        · rcases next with next | next
          · rw [next]
            exact ih member
          · rw [next, stateAfter_none]
            simp

end StateAfter

/-! ### The table agrees with the history -/

/-- The process is in a state, `caller` is its parent, and its pid is not handed out again. -/
structure ProcessTable.Tracks (table : ProcessTable) (caller pid : Pid)
    (state : Option ProcessState) : Prop where
  state_eq : table.stateOf? pid = state
  parent_eq : ∀ creator, table.parentOf? pid = some creator → creator = caller
  below_next : pid.number < table.nextPid

namespace Activity

variable {E : Type} {activity next last : Activity E} {happening : Happening}
  {effects : List Effect} {caller pid : Pid} {state : Option ProcessState}
  {history : List (Moment E)}

/-- The table keeps track of a process whose creation is not withdrawn. -/
theorem Step.tracks (step : Step activity happening effects next)
    (tracks : activity.kernel.table.Tracks caller pid state)
    (kept : ∀ parent cause, happening ≠ .withdrawn parent pid cause) :
    next.kernel.table.Tracks caller pid (advance pid state happening) := by
  rcases tracks with ⟨state_eq, parent_eq, below⟩
  have later := step.lt_nextPid below kept
  cases step with
  | refused refuses => exact ⟨state_eq, parent_eq, later⟩
  | launched inRange known built =>
      rename_i kernel pending parent name arguments entry space loader
      have other := Pid.ne_of_lt below
      refine ⟨?_, ?_, ?_⟩
      · simp only [Kernel.launched, ProcessTable.stateOf?_activated, ProcessTable.stateOf?_entered]
        simpa [advance, Ne.symm other, other] using state_eq
      · simp only [Kernel.launched, ProcessTable.parentOf?_activated,
          ProcessTable.parentOf?_entered]
        simpa [other] using parent_eq
      · exact later
  | created => exact ⟨state_eq, parent_eq, later⟩
  | withdrawn =>
      rename_i kernel outer parent failed cause
      have other : failed ≠ pid := by
        intro same
        subst same
        exact kept parent (.start cause) rfl
      rw [Kernel.fst_abandon] at later ⊢
      refine ⟨?_, ?_, later⟩
      · rw [ProcessTable.stateOf?_withdraw, if_neg other]
        exact state_eq
      · simp only [ProcessTable.parentOf?_withdraw, if_neg other]
        exact parent_eq
  | suspended looks child unfinished => exact ⟨state_eq, parent_eq, later⟩
  | turnedDown looks stranger => exact ⟨state_eq, parent_eq, later⟩
  | collected looks child ended =>
      rename_i outer collector target termination
      refine ⟨?_, ?_, later⟩
      · simp only [ProcessTable.stateOf?_collected, advance, state_eq]
      · intro creator named
        rw [ProcessTable.parentOf?_collected] at named
        split at named
        · cases named
        · exact parent_eq creator named
  | givenUp => exact ⟨state_eq, parent_eq, later⟩
  | exitIgnored idle =>
      rename_i ending status
      refine ⟨?_, parent_eq, later⟩
      have unchanged : ¬(ending = pid ∧ state = some .running) := by
        rintro ⟨rfl, rfl⟩
        exact idle state_eq
      simp only [advance, if_neg unchanged]
      exact state_eq
  | departed running =>
      rename_i kernel pending ending status
      refine ⟨?_, ?_, later⟩
      · simp only [Kernel.departed, ProcessTable.stateOf?_terminated, advance]
        by_cases same : ending = pid
        · subst ending
          have ran : state = some .running := state_eq.symm.trans running
          simp [running, ran]
        · simpa [same] using state_eq
      · simp only [Kernel.departed, ProcessTable.parentOf?_terminated]
        exact parent_eq
  | haltGranted last => exact ⟨state_eq, parent_eq, later⟩
  | haltRefused busy => exact ⟨state_eq, parent_eq, later⟩

/-- A process that was just launched runs below its creator. -/
theorem Step.tracks_launched (step : Step activity (.launched (some caller) pid) effects next) :
    next.kernel.table.Tracks caller pid (some .running) := by
  cases step with
  | launched inRange known built =>
      refine ⟨?_, ?_, ?_⟩
      · simp [Kernel.launched, ProcessTable.stateOf?_activated, ProcessTable.stateOf?_entered]
      · simp [Kernel.launched, ProcessTable.parentOf?_activated, ProcessTable.parentOf?_entered]
      · simp [Kernel.launched, ProcessTable.activated, ProcessTable.entered]

theorem Steps.tracks (steps : Steps activity history last)
    (tracks : activity.kernel.table.Tracks caller pid state)
    (kept : ∀ moment ∈ history, ∀ parent cause, moment.happening ≠ .withdrawn parent pid cause) :
    last.kernel.table.Tracks caller pid (stateAfter pid state history) := by
  induction steps generalizing state with
  | nil => exact tracks
  | cons step rest ih =>
      rename_i moment history
      have tracked := step.2.tracks tracks (kept moment List.mem_cons_self)
      apply ih tracked
      intro later member
      exact kept later (List.mem_cons_of_mem moment member)

/-! ### Pids that are not handed out again -/

/-- The pid was handed out, and no creation of its process is pending. -/
def Settled (activity : Activity E) (pid : Pid) : Prop :=
  pid.number < activity.kernel.table.nextPid ∧ pid ∉ creations activity.pending

theorem Step.settled (step : Step activity happening effects next)
    (settled : activity.Settled pid) : next.Settled pid ∧ ¬happening.Settles pid := by
  rcases settled with ⟨below, absent⟩
  cases step with
  | refused refuses => exact ⟨⟨below, absent⟩, nofun⟩
  | launched inRange known built =>
      rename_i kernel pending parent name arguments entry space loader
      have other := Pid.ne_of_lt below
      refine ⟨⟨Nat.lt_succ_of_lt below, ?_⟩, ?_⟩
      · simpa [other] using absent
      · intro settles
        cases settles
        exact other rfl
  | created =>
      rename_i kernel outer parent returned
      simp only [creations_creation, List.mem_cons, not_or] at absent
      refine ⟨⟨below, absent.2⟩, ?_⟩
      intro settles
      cases settles
      exact absent.1 rfl
  | withdrawn =>
      rename_i kernel outer parent failed cause
      simp only [creations_creation, List.mem_cons, not_or] at absent
      refine ⟨⟨?_, absent.2⟩, ?_⟩
      · rw [Kernel.fst_abandon]
        exact ProcessTable.lt_nextPid_withdraw (Ne.symm absent.1) below
      · intro settles
        cases settles
        exact absent.1 rfl
  | suspended looks child unfinished =>
      rw [looks.creations_eq] at absent
      exact ⟨⟨below, absent⟩, nofun⟩
  | turnedDown looks stranger =>
      rw [looks.creations_eq] at absent
      exact ⟨⟨below, absent⟩, nofun⟩
  | collected looks child ended =>
      rw [looks.creations_eq] at absent
      exact ⟨⟨below, absent⟩, nofun⟩
  | givenUp => exact ⟨⟨below, absent⟩, nofun⟩
  | exitIgnored idle => exact ⟨⟨below, absent⟩, nofun⟩
  | departed running => exact ⟨⟨below, absent⟩, nofun⟩
  | haltGranted last => exact ⟨⟨below, absent⟩, nofun⟩
  | haltRefused busy => exact ⟨⟨below, absent⟩, nofun⟩

theorem Steps.settled (steps : Steps activity history last) (settled : activity.Settled pid) :
    last.Settled pid := by
  induction steps with
  | nil => exact settled
  | cons step rest ih => exact ih (step.2.settled settled).1

theorem Steps.not_settles (steps : Steps activity history last) (settled : activity.Settled pid) :
    ∀ moment ∈ history, ¬moment.happening.Settles pid := by
  induction steps with
  | nil => simp
  | cons step rest ih =>
      rcases step.2.settled settled with ⟨after, different⟩
      intro moment member
      rcases List.mem_cons.mp member with rfl | later
      · exact different
      · exact ih after moment later

/-- The pid was handed out and has no record any more. -/
def Gone (activity : Activity E) (pid : Pid) : Prop :=
  activity.kernel.table.find? pid = none ∧ pid.number < activity.kernel.table.nextPid

/-- A pid without a record stays so: not even a withdrawal of its own creation frees it. -/
theorem Step.gone (step : Step activity happening effects next) (gone : activity.Gone pid) :
    next.Gone pid := by
  rcases gone with ⟨absent, below⟩
  by_cases own : ∃ parent cause, happening = .withdrawn parent pid cause
  · rcases own with ⟨parent, cause, rfl⟩
    -- There is no record to withdraw, so the counter stays where it is.
    cases step with
    | withdrawn =>
        rw [Kernel.fst_abandon, Gone]
        simp only [ProcessTable.withdraw_of_find?_eq_none absent]
        exact ⟨absent, below⟩
  · have tracks : activity.kernel.table.Tracks pid pid none := by
      refine ⟨?_, ?_, below⟩
      · simp [ProcessTable.stateOf?, absent]
      · simp [ProcessTable.parentOf?, absent]
    have kept : ∀ parent cause, happening ≠ .withdrawn parent pid cause := by
      intro parent cause same
      exact own ⟨parent, cause, same⟩
    have tracked := step.tracks tracks kept
    have idle : none ≠ some ProcessState.running := by simp
    rcases advance_of_not_running idle happening with state | state
    · rw [state] at tracked
      exact ⟨by simpa [ProcessTable.stateOf?] using tracked.state_eq, tracked.below_next⟩
    · rw [state] at tracked
      exact ⟨by simpa [ProcessTable.stateOf?] using tracked.state_eq, tracked.below_next⟩

theorem Steps.gone (steps : Steps activity history last) (gone : activity.Gone pid) :
    last.Gone pid := by
  induction steps with
  | nil => exact gone
  | cons step rest ih => exact ih (step.2.gone gone)

theorem Step.gone_of_collects (step : Step activity happening effects next)
    (sound : activity.Sound) (collects : happening.collects pid = true) : next.Gone pid := by
  rcases Happening.collects_iff.mp collects with ⟨collector, termination, rfl⟩
  cases step with
  | collected looks child ended =>
      rcases ProcessTable.stateOf?_eq_some_iff.mp ended with ⟨record, present, _⟩
      refine ⟨?_, sound.wellFormed.below_next present⟩
      rw [ProcessTable.find?_collected, if_pos rfl]

theorem Step.not_gone_of_launched {parent : Option Pid}
    (step : Step activity (.launched parent pid) effects next) : ¬activity.Gone pid := by
  rintro ⟨_, below⟩
  cases step with
  | launched inRange known built => simp at below

/-! ### Where a creation began -/

/-- Every pending creation began in the history, and nothing was heard of it since. -/
def Began (history : List (Moment E)) (activity : Activity E) : Prop :=
  ∀ parent pid, .creation parent pid ∈ activity.pending →
    ∃ earlier launch during, history = earlier ++ launch :: during ∧
      launch.happening = .launched parent pid ∧
        ∀ moment ∈ during, ¬moment.happening.Settles pid

theorem mem_creations {parent : Option Pid} {pending : List PendingCall}
    (member : .creation parent pid ∈ pending) : pid ∈ creations pending :=
  List.mem_filterMap.mpr ⟨_, member, rfl⟩

theorem Looks.mem_pending {call : PendingCall} {target : Pid} {outer : List PendingCall}
    (looks : activity.Looks caller target outer) (member : call ∈ outer) :
    call ∈ activity.pending := by
  rcases looks with pending | pending
  · rw [pending]
    exact member
  · rw [pending]
    exact List.mem_cons_of_mem _ member

/-- A creation that is pending after a step began in it, or was pending before and is not concerned. -/
theorem Step.pending_cases (step : Step activity happening effects next) (sound : activity.Sound)
    {parent : Option Pid} (member : .creation parent pid ∈ next.pending) :
    happening = .launched parent pid ∨
      .creation parent pid ∈ activity.pending ∧ ¬happening.Settles pid := by
  cases step with
  | refused refuses => exact Or.inr ⟨member, nofun⟩
  | launched inRange known built =>
      rcases List.mem_cons.mp member with same | before
      · cases same
        exact Or.inl rfl
      · refine Or.inr ⟨before, ?_⟩
        intro settles
        have below := sound.below_next pid (mem_creations before)
        cases settles
        simp at below
  | created =>
      -- The creations around the innermost one have smaller pids than that one.
      refine Or.inr ⟨List.mem_cons_of_mem _ member, ?_⟩
      intro settles
      have smaller := (List.pairwise_cons.mp sound.descending).1 pid (mem_creations member)
      cases settles
      omega
  | withdrawn =>
      refine Or.inr ⟨List.mem_cons_of_mem _ member, ?_⟩
      intro settles
      have smaller := (List.pairwise_cons.mp sound.descending).1 pid (mem_creations member)
      cases settles
      omega
  | suspended looks child unfinished =>
      rcases List.mem_cons.mp member with impossible | before
      · cases impossible
      · exact Or.inr ⟨looks.mem_pending before, nofun⟩
  | turnedDown looks stranger => exact Or.inr ⟨looks.mem_pending member, nofun⟩
  | collected looks child ended => exact Or.inr ⟨looks.mem_pending member, nofun⟩
  | givenUp => exact Or.inr ⟨List.mem_cons_of_mem _ member, nofun⟩
  | exitIgnored idle => exact Or.inr ⟨member, nofun⟩
  | departed running => exact Or.inr ⟨member, nofun⟩
  | haltGranted last => exact Or.inr ⟨member, nofun⟩
  | haltRefused busy => exact Or.inr ⟨member, nofun⟩

theorem IsStep.began {moment : Moment E} (step : activity.IsStep moment) (sound : activity.Sound)
    (began : Began history activity) : Began (history ++ [moment]) moment.after := by
  intro parent pid pending
  rcases step.2.pending_cases sound pending with launched | ⟨before, silent⟩
  · exact ⟨history, moment, [], rfl, launched, by simp⟩
  · rcases began parent pid before with ⟨earlier, launch, during, rfl, launched, unheard⟩
    refine ⟨earlier, launch, during ++ [moment], by simp, launched, ?_⟩
    intro other member
    rcases List.mem_append.mp member with earlier | last
    · exact unheard other earlier
    · rw [List.mem_singleton.mp last]
      exact silent

theorem Steps.began {prior : List (Moment E)} (steps : Steps activity history last)
    (sound : activity.Sound) (began : Began prior activity) : Began (prior ++ history) last := by
  induction steps generalizing prior with
  | nil =>
      rw [List.append_nil]
      exact began
  | cons step rest ih =>
      rw [List.append_cons]
      exact ih (step.sound sound) (step.began sound began)

theorem Step.created_pending {parent : Option Pid}
    (step : Step activity (.created parent pid) effects next) (sound : activity.Sound) :
    .creation parent pid ∈ activity.pending ∧ next.Settled pid := by
  cases step with
  | created =>
      rename_i kernel outer
      refine ⟨List.mem_cons_self, sound.below_next pid List.mem_cons_self, ?_⟩
      intro outside
      have smaller := (List.pairwise_cons.mp sound.descending).1 pid outside
      omega

end Activity

end Lifecycle
