import Lifecycle.Proofs.Interleaving

/-!
# Orderly traffic

Traffic is orderly if a call is begun only by a process that runs and makes no other call, and if the
engine takes back only processes that make none. Calls by different processes may overlap in any way.

Then what a call has found out stays true until its next operation: its caller runs, the process that
it creates has the record that the creation left, and a process that waits for a child has it as its
child. No other call can change this, because each of them belongs to another process.
-/

namespace Lifecycle

namespace Stage

variable {E : Type}

/-- The process that runs while the call is in progress. An exit has none once it has begun. -/
def runner? : Stage E → Option Pid
  | .reserve parent _ _ => parent
  | .load parent _ _ _ => parent
  | .activate parent _ _ => parent
  | .start parent _ => parent
  | .unloadUnused parent _ _ => parent
  | .discard parent _ _ => parent
  | .retract parent _ _ => parent
  | .unloadRetracted parent _ _ _ => parent
  | .register caller _ => some caller
  | .look caller _ => some caller
  | .suspend caller _ => some caller
  | .deregister caller _ _ => some caller
  | .terminate caller _ => some caller
  | .unload _ _ _ => none
  | .release _ _ => none
  | .wake _ _ _ => none
  | .halt caller => some caller

/-- The process that is being created and was not activated yet. -/
def unborn? : Stage E → Option Pid
  | .load _ pid _ _ => some pid
  | .activate _ pid _ => some pid
  | .unloadUnused _ pid _ => some pid
  | .discard _ pid _ => some pid
  | _ => none

/-- The process that the engine did not start. -/
def retracted? : Stage E → Option Pid
  | .retract _ pid _ => some pid
  | _ => none

/-- The process that is being created, as long as it has a record. -/
def created? : Stage E → Option Pid
  | .start _ launch => some launch.pid
  | .retract _ pid _ => some pid
  | stage => stage.unborn?

/-- The process that a suspended caller waits for. -/
def awaited? : Stage E → Option Pid
  | .suspend _ target => some target
  | _ => none

theorem created?_of_unborn? {stage : Stage E} {pid : Pid} (unborn : stage.unborn? = some pid) :
    stage.created? = some pid := by
  cases stage <;> first | exact unborn | cases unborn

/-- The calls have different callers and create different processes. -/
structure Apart (stage other : Stage E) : Prop where
  runners : ∀ runner, stage.runner? = some runner → other.runner? ≠ some runner
  created : ∀ pid, stage.created? = some pid → other.created? ≠ some pid

theorem Apart.symm {stage other : Stage E} (apart : stage.Apart other) : other.Apart stage where
  runners := fun runner here there => apart.runners runner there here
  created := fun pid here there => apart.created pid there here

end Stage

/-- The process that makes a call; the first process is created by nobody. -/
def Call.caller? : Call → Option Pid
  | spawn parent _ _ => parent
  | join caller _ => some caller
  | exit caller _ => some caller
  | halt caller => some caller

theorem Stage.runner?_first {E : Type} (call : Call) :
    (first call : Stage E).runner? = call.caller? := by
  cases call <;> rfl

theorem Stage.created?_first {E : Type} (call : Call) :
    (first call : Stage E).created? = none := by
  cases call <;> rfl

namespace Traffic

variable {E : Type}

/-- No call by `pid` is in progress. -/
def Unoccupied (calls : List (Stage E)) (pid : Pid) : Prop :=
  ∀ stage ∈ calls, stage.runner? ≠ some pid

instance (calls : List (Stage E)) (pid : Pid) : Decidable (Unoccupied calls pid) :=
  inferInstanceAs (Decidable (∀ stage ∈ calls, _))

/-- A free process makes a new call, or a call in progress performs its next operation. -/
def Permits (traffic : Traffic E) : Turn → Prop
  | .begin call => ∀ caller ∈ call.caller?,
      traffic.kernel.table.stateOf? caller = some .running ∧ Unoccupied traffic.calls caller
  | .advance place _ => ∀ stage ∈ traffic.calls[place]?, ∀ pid ∈ stage.retracted?,
      Unoccupied traffic.calls pid

instance (traffic : Traffic E) : DecidablePred traffic.Permits
  | .begin call => inferInstanceAs (Decidable (∀ caller ∈ call.caller?, _))
  | .advance place _ => inferInstanceAs (Decidable (∀ stage ∈ traffic.calls[place]?, _))

/-- The traffic after a turn; one that is nobody's is skipped. -/
def moved (traffic : Traffic E) (turn : Turn) : Traffic E :=
  ((traffic.step turn).map Event.after).getD traffic

/-- Every turn is permitted when it is taken. -/
def Orderly : Traffic E → List Turn → Prop
  | _, [] => True
  | traffic, turn :: schedule => traffic.Permits turn ∧ Orderly (traffic.moved turn) schedule

instance decidableOrderly : (traffic : Traffic E) → DecidablePred traffic.Orderly
  | _, [] => inferInstanceAs (Decidable True)
  | traffic, turn :: schedule =>
    have := decidableOrderly (traffic.moved turn) schedule
    inferInstanceAs (Decidable (traffic.Permits turn ∧ Orderly (traffic.moved turn) schedule))

end Traffic

/-! ### What other calls leave alone -/

namespace Stage

variable {E : Type} {kernel last : Kernel E} {stage : Stage E} {next : Option (Stage E)}

/-- What the table says about a call in progress. -/
structure Supported (table : ProcessTable) (stage : Stage E) : Prop where
  running : ∀ runner, stage.runner? = some runner → table.stateOf? runner = some .running
  /-- The process that is being created has a record with the caller as its parent. -/
  recorded : ∀ pid, stage.created? = some pid →
    (table.find? pid).map ProcessRecord.parent = some stage.runner?
  embryo : ∀ pid, stage.unborn? = some pid → table.stateOf? pid = some .embryo
  child : ∀ caller target, stage = .suspend caller target → table.IsChild caller target

/-- The operation is not one of a call by `pid`, and it does not take `pid` back. -/
structure Spares (stage : Stage E) (pid : Pid) : Prop where
  runner : stage.runner? ≠ some pid
  retracted : stage.retracted? ≠ some pid

theorem Supported.parentOf? {table : ProcessTable} {pid : Pid} (supported : stage.Supported table)
    (created : stage.created? = some pid) : table.parentOf? pid = stage.runner? := by
  rw [ProcessTable.parentOf?_eq_join, supported.recorded pid created]
  rfl

theorem Spares.not_terminate {pid : Pid} (spares : stage.Spares pid) (status : Option Int32) :
    stage ≠ .terminate pid status := by
  intro same
  subst same
  exact spares.runner rfl

theorem Step.running (step : Step kernel stage next last) (supported : stage.Supported kernel.table)
    (wellFormed : kernel.table.WellFormed) {pid : Pid}
    (lives : ∀ status, stage ≠ .terminate pid status) (kept : stage.retracted? ≠ some pid)
    (state : kernel.table.stateOf? pid = some .running) :
    last.table.stateOf? pid = some .running := by
  cases step with
  | reserved inRange known =>
      simp only [ProcessTable.stateOf?_entered]
      rw [if_neg (wellFormed.ne_nextPid state)]
      exact state
  | activated embryo =>
      simp only [ProcessTable.stateOf?_activated]
      split
      · simp [state]
      · exact state
  | discarded =>
      rename_i parent withdrawn cause
      have embryo := supported.embryo withdrawn rfl
      simp only [ProcessTable.stateOf?_withdraw]
      rw [if_neg]
      · exact state
      · intro same
        subst same
        rw [embryo] at state
        cases state
  | retracted regains =>
      rename_i parent withdrawn cause
      simp only [ProcessTable.stateOf?_withdraw]
      rw [if_neg]
      · exact state
      · intro same
        exact kept (congrArg some same)
  | collected child ended =>
      simp only [ProcessTable.stateOf?_collected]
      rw [if_neg]
      · exact state
      · intro same
        subst same
        rw [ended] at state
        cases state
  | terminated present running =>
      rename_i caller status record
      simp only [ProcessTable.stateOf?_terminated]
      rw [if_neg]
      · exact state
      · intro same
        subst same
        exact lives status rfl
  | _ => exact state

/-- A record keeps its parent as long as nobody collects it or takes it back. -/
theorem Step.recorded (step : Step kernel stage next last) (wellFormed : kernel.table.WellFormed)
    {pid : Pid} {parent : Option Pid} (others : stage.created? ≠ some pid)
    (spared : ∀ creator, parent = some creator → stage.runner? ≠ some creator)
    (recorded : (kernel.table.find? pid).map ProcessRecord.parent = some parent) :
    (last.table.find? pid).map ProcessRecord.parent = some parent := by
  cases step with
  | reserved inRange known =>
      rcases Option.map_eq_some_iff.mp recorded with ⟨record, present, _⟩
      have older := Pid.ne_of_lt (wellFormed.below_next present)
      simp only [ProcessTable.map_find?_entered ProcessTable.ignoresChildren_parent]
      rw [if_neg older]
      exact recorded
  | activated embryo =>
      simp only [ProcessTable.find?_activated]
      split
      · rw [Option.map_map]
        exact recorded
      · exact recorded
  | discarded =>
      simp only [ProcessTable.map_find?_withdraw ProcessTable.ignoresChildren_parent]
      rw [if_neg]
      · exact recorded
      · intro same
        exact others (congrArg some same)
  | retracted regains =>
      simp only [ProcessTable.map_find?_withdraw ProcessTable.ignoresChildren_parent]
      rw [if_neg]
      · exact recorded
      · intro same
        exact others (congrArg some same)
  | collected child ended =>
      rename_i collector target termination
      simp only [ProcessTable.map_find?_collected ProcessTable.ignoresChildren_parent]
      rw [if_neg]
      · exact recorded
      -- Whoever collects a process is its parent, and the parent makes another call.
      · intro same
        subst same
        have named := child.2
        rw [ProcessTable.parentOf?_eq_join, recorded] at named
        exact spared collector named rfl
  | terminated present running =>
      simp only [ProcessTable.find?_terminated]
      split
      · rw [Option.map_map]
        exact recorded
      · exact recorded
  | _ => exact recorded

theorem Step.embryo (step : Step kernel stage next last) (wellFormed : kernel.table.WellFormed)
    {pid : Pid} (others : stage.created? ≠ some pid)
    (state : kernel.table.stateOf? pid = some .embryo) :
    last.table.stateOf? pid = some .embryo := by
  cases step with
  | reserved inRange known =>
      simp only [ProcessTable.stateOf?_entered]
      rw [if_neg (wellFormed.ne_nextPid state)]
      exact state
  | activated embryo =>
      simp only [ProcessTable.stateOf?_activated]
      rw [if_neg]
      · exact state
      · intro same
        exact others (congrArg some same)
  | discarded =>
      simp only [ProcessTable.stateOf?_withdraw]
      rw [if_neg]
      · exact state
      · intro same
        exact others (congrArg some same)
  | retracted regains =>
      simp only [ProcessTable.stateOf?_withdraw]
      rw [if_neg]
      · exact state
      · intro same
        exact others (congrArg some same)
  | collected child ended =>
      simp only [ProcessTable.stateOf?_collected]
      rw [if_neg]
      · exact state
      · intro same
        subst same
        rw [ended] at state
        cases state
  | terminated present running =>
      rename_i caller status record
      have ran := ProcessTable.stateOf?_eq_some_iff.mpr ⟨record, present, running⟩
      simp only [ProcessTable.stateOf?_terminated]
      rw [if_neg]
      · exact state
      · intro same
        subst same
        rw [ran] at state
        cases state
  | _ => exact state

/-- A running process keeps its children while others act. -/
theorem Step.isChild (step : Step kernel stage next last) (supported : stage.Supported kernel.table)
    (wellFormed : kernel.table.WellFormed) {caller target : Pid} (spares : stage.Spares caller)
    (state : kernel.table.stateOf? caller = some .running)
    (child : kernel.table.IsChild caller target) : last.table.IsChild caller target := by
  have stays := step.running supported wellFormed spares.not_terminate spares.retracted state
  rcases ProcessTable.stateOf?_eq_some_iff.mp stays with ⟨record, present, _⟩
  refine ⟨ProcessTable.contains_iff.mpr ⟨record, present⟩, ?_⟩
  rcases ProcessTable.parentOf?_eq_some_iff.mp child.2 with ⟨record, found, parent⟩
  have recorded : (kernel.table.find? target).map ProcessRecord.parent = some (some caller) := by
    simp [found, parent]
  have kept : (last.table.find? target).map ProcessRecord.parent = some (some caller) := by
    apply step.recorded wellFormed _ _ recorded
    · intro created
      have named := supported.parentOf? created
      rw [child.2] at named
      exact spares.runner named.symm
    · intro creator same
      cases same
      exact spares.runner
  rw [ProcessTable.parentOf?_eq_join, kept]
  rfl

/-- What the table says about a call stays true while a call of another process acts. -/
theorem Step.supported_other (step : Step kernel stage next last)
    (supported : stage.Supported kernel.table) (wellFormed : kernel.table.WellFormed)
    {other : Stage E} (apart : stage.Apart other)
    (unattended : ∀ pid, stage.retracted? = some pid → other.runner? ≠ some pid)
    (before : other.Supported kernel.table) : other.Supported last.table := by
  have spares : ∀ runner, other.runner? = some runner → stage.Spares runner := by
    intro runner runs
    refine ⟨?_, ?_⟩
    · intro same
      exact apart.runners runner same runs
    · intro same
      exact unattended runner same runs
  refine ⟨?_, ?_, ?_, ?_⟩
  · intro runner runs
    have spared := spares runner runs
    exact step.running supported wellFormed spared.not_terminate spared.retracted
      (before.running runner runs)
  · intro pid created
    apply step.recorded wellFormed _ _ (before.recorded pid created)
    · intro same
      exact apart.created pid same created
    · intro creator runs
      exact (spares creator runs).runner
  · intro pid unborn
    apply step.embryo wellFormed _ (before.embryo pid unborn)
    intro same
    exact apart.created pid same (created?_of_unborn? unborn)
  · intro caller target same
    subst same
    apply step.isChild supported wellFormed (spares caller rfl)
    · exact before.running caller rfl
    · exact before.child caller target rfl

/-! ### What a call does itself -/

variable {later : Stage E}

theorem Step.runner?_next (step : Step kernel stage next last) (goesOn : next = some later) :
    ∀ runner, later.runner? = some runner → stage.runner? = some runner := by
  intro runner runs
  cases step with
  | retracted regains =>
      rcases Option.map_eq_some_iff.mp (regains.symm.trans goesOn) with ⟨space, _, rfl⟩
      exact runs
  | terminated present running =>
      cases goesOn
      cases runs
  | unloaded =>
      cases goesOn
      cases runs
  | released =>
      cases goesOn
      cases runs
  | woke =>
      cases goesOn
      cases runs
  | _ =>
      cases goesOn
      try exact runs

/-- A creation is about one process from the moment it has a pid. -/
theorem Step.created?_next (step : Step kernel stage next last) (goesOn : next = some later) :
    ∀ pid, later.created? = some pid →
      stage.created? = some pid ∨ pid = ⟨kernel.table.nextPid⟩ := by
  intro pid created
  cases step with
  | reserved inRange known =>
      cases goesOn
      cases created
      exact Or.inr rfl
  | retracted regains =>
      rcases Option.map_eq_some_iff.mp (regains.symm.trans goesOn) with ⟨space, _, rfl⟩
      cases created
  | _ =>
      cases goesOn
      try first | exact Or.inl created | cases created

/-- What a call needs that waits for nobody. -/
theorem Supported.of_awake {table : ProcessTable}
    (running : ∀ runner, later.runner? = some runner → table.stateOf? runner = some .running)
    (recorded : ∀ pid, later.created? = some pid →
      (table.find? pid).map ProcessRecord.parent = some later.runner?)
    (embryo : ∀ pid, later.unborn? = some pid → table.stateOf? pid = some .embryo)
    (awake : later.awaited? = none) : later.Supported table where
  running := running
  recorded := recorded
  embryo := embryo
  child := by
    intro caller target same
    subst same
    cases awake

/-- A call that creates nothing and waits for nobody needs no more than its caller. -/
theorem Supported.of_running {table : ProcessTable}
    (running : ∀ runner, later.runner? = some runner → table.stateOf? runner = some .running)
    (idle : later.created? = none) (awake : later.awaited? = none) : later.Supported table := by
  apply Supported.of_awake running _ _ awake
  · intro pid created
    rw [idle] at created
    cases created
  · intro pid unborn
    rw [created?_of_unborn? unborn] at idle
    cases idle

/-- The end of an exit needs nothing. -/
theorem Supported.of_unattended {table : ProcessTable} (gone : later.runner? = none)
    (idle : later.created? = none) (awake : later.awaited? = none) : later.Supported table := by
  apply Supported.of_running _ idle awake
  intro runner runs
  rw [gone] at runs
  cases runs

theorem Step.supported_next (step : Step kernel stage next last)
    (supported : stage.Supported kernel.table) (wellFormed : kernel.table.WellFormed)
    (goesOn : next = some later) : later.Supported last.table := by
  cases step with
  | reserved inRange known =>
      rename_i parent name arguments
      cases goesOn
      apply Supported.of_awake _ _ _ rfl
      · intro runner runs
        have state := supported.running runner runs
        simp only [ProcessTable.stateOf?_entered]
        rw [if_neg (wellFormed.ne_nextPid state)]
        exact state
      · intro pid created
        cases created
        simp [ProcessTable.find?_entered, ProcessRecord.newborn, runner?]
      · intro pid unborn
        cases unborn
        exact ProcessTable.stateOf?_entered_nextPid
  | activated embryo =>
      rename_i parent pid loaded
      cases goesOn
      apply Supported.of_awake _ _ _ rfl
      · intro runner runs
        have state := supported.running runner runs
        simp only [ProcessTable.stateOf?_activated]
        split
        · simp [state]
        · exact state
      · intro other created
        cases created
        simp only [ProcessTable.find?_activated, if_true, Option.map_map]
        exact supported.recorded pid rfl
      · intro other unborn
        cases unborn
  | unloadable failed =>
      cases goesOn
      exact .of_awake supported.running supported.recorded supported.embryo rfl
  | loaded built =>
      cases goesOn
      exact .of_awake supported.running supported.recorded supported.embryo rfl
  | unactivated other =>
      cases goesOn
      exact .of_awake supported.running supported.recorded supported.embryo rfl
  | unloadedUnused =>
      cases goesOn
      exact .of_awake supported.running supported.recorded supported.embryo rfl
  | refused =>
      cases goesOn
      refine .of_awake supported.running supported.recorded ?_ rfl
      intro pid unborn
      cases unborn
  | retracted regains =>
      rename_i parent pid cause
      rcases Option.map_eq_some_iff.mp (regains.symm.trans goesOn) with ⟨space, _, rfl⟩
      apply Supported.of_running _ rfl rfl
      intro runner runs
      have named := supported.parentOf? (rfl : (retract parent pid cause : Stage E).created? = _)
      have older := wellFormed.lt_of_parentOf? (named.trans runs)
      simp only [ProcessTable.stateOf?_withdraw]
      rw [if_neg]
      · exact supported.running runner runs
      · intro same
        subst same
        omega
  | registered =>
      cases goesOn
      exact .of_running supported.running rfl rfl
  | unfinished child unfinished =>
      cases goesOn
      refine ⟨supported.running, ?_, ?_, ?_⟩
      · intro pid created
        cases created
      · intro pid unborn
        cases unborn
      · intro caller target same
        cases same
        exact child
  | turnedDown stranger =>
      cases goesOn
      exact .of_running supported.running rfl rfl
  | collected child ended =>
      rename_i caller target termination
      cases goesOn
      apply Supported.of_running _ rfl rfl
      intro runner runs
      have state := supported.running runner runs
      simp only [ProcessTable.stateOf?_collected]
      rw [if_neg]
      · exact state
      · intro same
        subst same
        rw [ended] at state
        cases state
  | resumed =>
      cases goesOn
      exact .of_running supported.running rfl rfl
  | terminated present running =>
      cases goesOn
      exact .of_unattended rfl rfl rfl
  | unloaded =>
      cases goesOn
      exact .of_unattended rfl rfl rfl
  | released =>
      cases goesOn
      exact .of_unattended rfl rfl rfl
  | woke =>
      cases goesOn
      exact .of_unattended rfl rfl rfl
  | _ => cases goesOn

end Stage

namespace Traffic

variable {E : Type} {traffic last : Traffic E} {event : Event E} {turn : Turn}

/-- What holds whenever traffic is orderly. -/
structure Consistent (traffic : Traffic E) : Prop where
  wellFormed : traffic.kernel.table.WellFormed
  apart : traffic.calls.Pairwise Stage.Apart
  supported : ∀ stage ∈ traffic.calls, stage.Supported traffic.kernel.table

/-- A permitted operation, beside the calls `others`. -/
structure Fair (traffic : Traffic E) (event : Event E) (others : List (Stage E)) : Prop
    extends traffic.Performs event others where
  supported : event.stage.Supported traffic.kernel.table
  apart : ∀ other ∈ others, event.stage.Apart other
  unattended : ∀ pid, event.stage.retracted? = some pid → Unoccupied others pid

theorem fair_of_permits (consistent : traffic.Consistent) (permits : traffic.Permits turn)
    (fits : traffic.step turn = some event) :
    ∃ others, traffic.Fair event others ∧ others.Pairwise Stage.Apart := by
  rcases step_cases consistent.wellFormed fits with
    ⟨call, rfl, begins, performs⟩ | ⟨place, refusal, others, rfl, found, moved, performs⟩
  · refine ⟨traffic.calls, ⟨performs, ?_, ?_, ?_⟩, consistent.apart⟩
    · rw [begins]
      apply Stage.Supported.of_running
      · intro runner runs
        rw [Stage.runner?_first] at runs
        exact (permits runner runs).1
      · exact Stage.created?_first call
      · cases call <;> rfl
    · intro other member
      rw [begins]
      refine ⟨?_, ?_⟩
      · intro runner runs
        rw [Stage.runner?_first] at runs
        exact (permits runner runs).2 other member
      · intro pid created
        rw [Stage.created?_first] at created
        cases created
    · intro pid retracted
      rw [begins] at retracted
      cases call <;> cases retracted
  · have apart := (moved.pairwise_iff (fun apart => Stage.Apart.symm apart)).mp consistent.apart
    rcases List.pairwise_cons.mp apart with ⟨different, others_apart⟩
    refine ⟨others, ⟨performs, ?_, different, ?_⟩, others_apart⟩
    · exact consistent.supported event.stage (moved.mem_iff.mpr List.mem_cons_self)
    · intro pid retracted other member
      exact permits event.stage found pid retracted other (performs.mem_calls other member)

theorem Fair.consistent {others : List (Stage E)} (fair : traffic.Fair event others)
    (consistent : traffic.Consistent) (apart : others.Pairwise Stage.Apart) :
    event.after.Consistent := by
  have wellFormed := consistent.wellFormed
  refine ⟨fair.step.wellFormed wellFormed, ?_, ?_⟩
  · rw [fair.calls]
    cases goesOn : event.next with
    | none => exact apart
    | some later =>
        apply List.pairwise_cons.mpr
        refine ⟨?_, apart⟩
        intro other member
        refine ⟨?_, ?_⟩
        · intro runner runs
          exact (fair.apart other member).runners runner
            (fair.step.runner?_next goesOn runner runs)
        · intro pid created
          rcases fair.step.created?_next goesOn pid created with before | fresh
          · exact (fair.apart other member).created pid before
          · intro same
            have recorded := (consistent.supported other (fair.mem_calls other member)).recorded
              pid same
            rw [fresh, wellFormed.find?_nextPid] at recorded
            cases recorded
  · intro stage member
    rw [fair.calls] at member
    rcases List.mem_append.mp member with goesOn | other
    · exact fair.step.supported_next fair.supported wellFormed (Option.mem_toList.mp goesOn)
    · apply fair.step.supported_other fair.supported wellFormed (fair.apart stage other)
      · intro pid retracted
        exact fair.unattended pid retracted stage other
      · exact consistent.supported stage (fair.mem_calls stage other)

theorem consistent_boot (config : KernelConfig) (registry : ImageRegistry E) :
    (boot config registry).Consistent where
  wellFormed := ProcessTable.wellFormed_ofMaxPid config.maxPid
  apart := List.Pairwise.nil
  supported := by
    intro stage member
    cases member

/-- What every permitted event keeps, for the history up to it, holds at the end of a schedule. -/
theorem orderly_induction (holds : List (Event E) → Traffic E → Prop) (prior : List (Event E))
    {schedule : List Turn} (orderly : traffic.Orderly schedule) (consistent : traffic.Consistent)
    (start : holds prior traffic)
    (keeps : ∀ {prior traffic event others}, Consistent traffic → holds prior traffic →
      traffic.Fair event others → holds (prior ++ [event]) event.after) :
    (traffic.run schedule).2.Consistent ∧
      holds (prior ++ (traffic.run schedule).1) (traffic.run schedule).2 := by
  induction schedule generalizing prior traffic with
  | nil =>
      rw [run, List.append_nil]
      exact ⟨consistent, start⟩
  | cons turn schedule ih =>
      rcases orderly with ⟨permits, orderly⟩
      cases fits : traffic.step turn with
      | none =>
          have same : traffic.moved turn = traffic := by simp [moved, fits]
          rw [same] at orderly
          simp only [run, fits]
          exact ih prior orderly consistent start
      | some event =>
          have same : traffic.moved turn = event.after := by simp [moved, fits]
          rw [same] at orderly
          rcases fair_of_permits consistent permits fits with ⟨others, fair, apart⟩
          simp only [run, fits]
          rw [List.append_cons]
          exact ih _ orderly (fair.consistent consistent apart) (keeps consistent start fair)

end Traffic

end Lifecycle
