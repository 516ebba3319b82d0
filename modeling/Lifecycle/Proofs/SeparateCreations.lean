import Lifecycle.Proofs.OrderlyTraffic

/-!
# Creations that overlap

Traffic need not be orderly here. Any number of creations, exits, joins and halts overlap in any way,
whoever makes them, and the engine refuses the starts that it likes.

At every moment different creations are about different processes, each with a pid below the counter.
A reservation cannot disturb this, because it hands out the counter itself. A withdrawal can lower the
counter, but only to the pid of its own creation, which ends with it. So from a reservation to the end
of the creation the pid is not handed out again: what the creation withdraws is the record that it
reserved, or nothing if that record was collected before.
-/

namespace Lifecycle

namespace Stage

variable {E : Type} {kernel last : Kernel E} {stage later : Stage E} {next : Option (Stage E)}
  {pid : Pid}

/-- The calls create different processes, if they create any. -/
def Distinct (stage other : Stage E) : Prop :=
  ∀ pid, stage.created? = some pid → other.created? ≠ some pid

theorem Distinct.symm {other : Stage E} (distinct : stage.Distinct other) : other.Distinct stage :=
  fun pid here there => distinct pid there here

theorem created?_of_withdrawn? (withdrawn : stage.withdrawn? = some pid) :
    stage.created? = some pid := by
  cases stage <;> first | exact withdrawn | cases withdrawn

/-! ### What one operation does to a creation -/

/-- Only its own creation takes a pid back. -/
theorem Step.lt_nextPid (step : Step kernel stage next last)
    (below : pid.number < kernel.table.nextPid) (others : stage.created? ≠ some pid) :
    pid.number < last.table.nextPid := by
  rcases step.changes with unchanged | ⟨operation, changes, withdraws⟩
  · rw [unchanged]
    exact below
  · rcases changes.lt_or_withdraw below with kept | ⟨same, _⟩
    · exact kept
    · rw [same] at withdraws
      exact absurd (created?_of_withdrawn? withdraws.symm) others

/-- A call goes on about the process that it creates, or it reserved the pid just now. -/
theorem Step.created?_cases (step : Step kernel stage next last) (goesOn : next = some later)
    (created : later.created? = some pid) :
    stage.created? = some pid ∧ last.table.nextPid = kernel.table.nextPid ∨
      ∃ parent name arguments, stage = .reserve parent name arguments ∧
        later = .load parent pid name arguments ∧ pid = ⟨kernel.table.nextPid⟩ ∧
          last.table = kernel.table.entered parent := by
  cases step with
  | reserved inRange known =>
      cases goesOn
      cases created
      exact Or.inr ⟨_, _, _, rfl, rfl, rfl, rfl⟩
  | retracted regains =>
      rcases Option.map_eq_some_iff.mp (regains.symm.trans goesOn) with ⟨space, _, rfl⟩
      cases created
  | _ =>
      cases goesOn
      try first | exact Or.inl ⟨created, rfl⟩ | cases created

theorem Step.embryo_next (step : Step kernel stage next last) (goesOn : next = some later)
    (embryo : ∀ pid, stage.unborn? = some pid → kernel.table.stateOf? pid = some .embryo)
    (unborn : later.unborn? = some pid) : last.table.stateOf? pid = some .embryo := by
  cases step with
  | reserved inRange known =>
      cases goesOn
      cases unborn
      exact ProcessTable.stateOf?_entered_nextPid
  | retracted regains =>
      rcases Option.map_eq_some_iff.mp (regains.symm.trans goesOn) with ⟨space, _, rfl⟩
      cases unborn
  | _ =>
      cases goesOn
      try first | exact embryo pid unborn | cases unborn

theorem Step.activates {parent : Option Pid} {loaded : LoadedImage E}
    (step : Step kernel (.activate parent pid loaded) next last)
    (embryo : kernel.table.stateOf? pid = some .embryo) :
    next = some (.start parent ⟨pid, loaded.entry, loaded.space.arguments⟩) := by
  cases step with
  | activated _ => rfl
  | unactivated other => exact absurd embryo other

/-- A pid below the counter that has no record does not get one again. -/
theorem Step.absent (step : Step kernel stage next last)
    (below : pid.number < kernel.table.nextPid) (absent : kernel.table.find? pid = none) :
    last.table.find? pid = none := by
  rcases step.changes with unchanged | ⟨operation, changes, _⟩
  · rw [unchanged]
    exact absent
  · exact (changes.retired ⟨absent, below⟩).1

theorem Step.start_unchanged {parent : Option Pid} {launch : Launch E}
    (step : Step kernel (.start parent launch) next last) : last = kernel := by
  cases step <;> rfl

theorem Step.withdraws (step : Step kernel stage next last)
    (withdrawn : stage.withdrawn? = some pid) :
    last = { kernel with table := (kernel.table.withdraw pid).2 } := by
  cases step with
  | discarded =>
      cases withdrawn
      rfl
  | retracted regains =>
      cases withdrawn
      rfl
  | _ => cases withdrawn

end Stage

namespace Traffic

variable {E : Type} {traffic last : Traffic E} {event : Event E} {turn : Turn}
  {others : List (Stage E)} {pid : Pid}

/-! ### Creations stay apart -/

/-- What holds of the creations in progress. -/
structure Separate (traffic : Traffic E) : Prop where
  wellFormed : traffic.kernel.table.WellFormed
  distinct : traffic.calls.Pairwise Stage.Distinct
  below_next : ∀ stage ∈ traffic.calls, ∀ pid, stage.created? = some pid →
    pid.number < traffic.kernel.table.nextPid
  embryo : ∀ stage ∈ traffic.calls, ∀ pid, stage.unborn? = some pid →
    traffic.kernel.table.stateOf? pid = some .embryo

/-- A call performs an operation, and no other call is about the process that it creates. -/
structure Proceeds (traffic : Traffic E) (event : Event E) (others : List (Stage E)) : Prop
    extends traffic.Performs event others where
  /-- The call begins, or it was in progress beside the others. -/
  taken : (∃ call, event.stage = .first call) ∧ traffic.calls = others ∨
    traffic.calls.Perm (event.stage :: others)
  distinct : ∀ other ∈ others, event.stage.Distinct other
  below_next : ∀ pid, event.stage.created? = some pid → pid.number < traffic.kernel.table.nextPid
  embryo : ∀ pid, event.stage.unborn? = some pid →
    traffic.kernel.table.stateOf? pid = some .embryo

theorem proceeds_of_separate (separate : traffic.Separate) (fits : traffic.step turn = some event) :
    ∃ others, traffic.Proceeds event others ∧ others.Pairwise Stage.Distinct := by
  rcases step_cases separate.wellFormed fits with
    ⟨call, rfl, begins, performs⟩ | ⟨place, refusal, others, rfl, found, moved, performs⟩
  · have idle : ∀ pid, event.stage.created? ≠ some pid := by
      intro pid created
      rw [begins, Stage.created?_first] at created
      cases created
    refine ⟨traffic.calls, ⟨performs, Or.inl ⟨⟨call, begins⟩, rfl⟩, ?_, ?_, ?_⟩, separate.distinct⟩
    · intro other member pid created
      exact absurd created (idle pid)
    · intro pid created
      exact absurd created (idle pid)
    · intro pid unborn
      exact absurd (Stage.created?_of_unborn? unborn) (idle pid)
  · have distinct := (moved.pairwise_iff (fun apart => Stage.Distinct.symm apart)).mp
      separate.distinct
    rcases List.pairwise_cons.mp distinct with ⟨different, others_distinct⟩
    have present : event.stage ∈ traffic.calls := moved.mem_iff.mpr List.mem_cons_self
    exact ⟨others, ⟨performs, Or.inr moved, different, separate.below_next event.stage present,
      separate.embryo event.stage present⟩, others_distinct⟩

theorem Proceeds.mem_calls_of_created (proceeds : traffic.Proceeds event others)
    (created : event.stage.created? = some pid) : event.stage ∈ traffic.calls := by
  rcases proceeds.origin with member | ⟨call, begins⟩
  · exact member
  · rw [begins, Stage.created?_first] at created
    cases created

theorem Proceeds.others_created (proceeds : traffic.Proceeds event others) {other : Stage E}
    (member : other ∈ others) (created : other.created? = some pid) :
    event.stage.created? ≠ some pid := by
  intro same
  exact proceeds.distinct other member pid same created

theorem Proceeds.separate (proceeds : traffic.Proceeds event others) (separate : traffic.Separate)
    (distinct : others.Pairwise Stage.Distinct) : event.after.Separate := by
  refine ⟨proceeds.step.wellFormed separate.wellFormed, ?_, ?_, ?_⟩
  · rw [proceeds.calls]
    cases goesOn : event.next with
    | none => exact distinct
    | some later =>
        apply List.pairwise_cons.mpr
        refine ⟨?_, distinct⟩
        intro other member pid created same
        rcases proceeds.step.created?_cases goesOn created with
          ⟨before, _⟩ | ⟨_, _, _, _, _, fresh, _⟩
        · exact proceeds.others_created member same before
        · have below := separate.below_next other (proceeds.mem_calls other member) pid same
          exact Pid.ne_of_lt below fresh
  · intro stage member pid created
    rw [proceeds.calls] at member
    rcases List.mem_append.mp member with goesOn | other
    · rcases proceeds.step.created?_cases (Option.mem_toList.mp goesOn) created with
        ⟨before, same⟩ | ⟨_, _, _, _, _, rfl, left⟩
      · rw [same]
        exact proceeds.below_next pid before
      · rw [left]
        exact Nat.lt_succ_self _
    · apply proceeds.step.lt_nextPid
      · exact separate.below_next stage (proceeds.mem_calls stage other) pid created
      · exact proceeds.others_created other created
  · intro stage member pid unborn
    rw [proceeds.calls] at member
    rcases List.mem_append.mp member with goesOn | other
    · exact proceeds.step.embryo_next (Option.mem_toList.mp goesOn) proceeds.embryo unborn
    · apply proceeds.step.embryo separate.wellFormed
      · exact proceeds.others_created other (Stage.created?_of_unborn? unborn)
      · exact separate.embryo stage (proceeds.mem_calls stage other) pid unborn

theorem separate_boot (config : KernelConfig) (registry : ImageRegistry E) :
    (boot config registry).Separate where
  wellFormed := ProcessTable.wellFormed_ofMaxPid config.maxPid
  distinct := List.Pairwise.nil
  below_next := by
    intro stage member
    cases member
  embryo := by
    intro stage member
    cases member

/-- What every event keeps in separate traffic holds at the end of a schedule. -/
theorem separate_induction (holds : List (Event E) → Traffic E → Prop) (prior : List (Event E))
    (schedule : List Turn) (separate : traffic.Separate) (start : holds prior traffic)
    (keeps : ∀ {prior traffic event others}, Separate traffic → holds prior traffic →
      traffic.Proceeds event others → holds (prior ++ [event]) event.after) :
    holds (prior ++ (traffic.run schedule).1) (traffic.run schedule).2 := by
  have kept := turn_induction (fun prior traffic => Separate traffic ∧ holds prior traffic)
    prior schedule ⟨separate, start⟩ ?_
  · exact kept.2
  · rintro prior traffic turn event ⟨separate, before⟩ fits
    rcases proceeds_of_separate separate fits with ⟨others, proceeds, distinct⟩
    exact ⟨proceeds.separate separate distinct, keeps separate before proceeds⟩

/-! ### From the reservation to the withdrawal -/

/-- The event hands the pid out to a creation, which goes on. -/
def Event.Reserves (event : Event E) (pid : Pid) : Prop :=
  ∃ parent name arguments, event.stage = .reserve parent name arguments ∧
    event.next = some (.load parent pid name arguments)

/--
The creation that the reservation began has come to a stage. It performed operations of its own, one
after the other, and nothing else that happened meanwhile was part of a creation of this process.
-/
inductive Carries (pid : Pid) (reservation : Event E) : List (Event E) → Stage E → Prop
  | begun {stage : Stage E} (goesOn : reservation.next = some stage) :
      Carries pid reservation [] stage
  | own {during : List (Event E)} {event : Event E} {stage : Stage E}
      (carries : Carries pid reservation during event.stage) (goesOn : event.next = some stage) :
      Carries pid reservation (during ++ [event]) stage
  | other {during : List (Event E)} {event : Event E} {stage : Stage E}
      (carries : Carries pid reservation during stage)
      (unrelated : event.stage.created? ≠ some pid) (elsewhere : ¬event.Reserves pid) :
      Carries pid reservation (during ++ [event]) stage

/-- The events from the reservation on left the record of the process where it is. -/
def Holds (pid : Pid) (since : List (Event E)) : Prop :=
  ∀ event ∈ since, event.after.kernel.table.contains pid = true

/-- The creation of `pid` came to `stage`, and its record is the reserved one if it has a record. -/
def Begun (history : List (Event E)) (traffic : Traffic E) (stage : Stage E) (pid : Pid) : Prop :=
  ∃ earlier reservation during, history = earlier ++ reservation :: during ∧
    reservation.Reserves pid ∧ Carries pid reservation during stage ∧
      (Holds pid (reservation :: during) ∨ traffic.kernel.table.find? pid = none)

/-- The withdrawal takes back what the reservation entered, or finds nothing to take back. -/
structure TakesBack (pid : Pid) (reservation : Event E) (during : List (Event E))
    (withdrawal : Event E) : Prop where
  reserves : reservation.Reserves pid
  carries : Carries pid reservation during withdrawal.stage
  removes : Holds pid (reservation :: during) ∨
    withdrawal.before.kernel.table.contains pid = false ∧
      withdrawal.after.kernel = withdrawal.before.kernel
  gone : withdrawal.after.kernel.table.contains pid = false
  others : ∀ other, other ≠ pid → withdrawal.after.kernel.table.contains other =
    withdrawal.before.kernel.table.contains other

variable {prior : List (Event E)}

theorem Proceeds.holds_snoc (proceeds : traffic.Proceeds event others) {since : List (Event E)}
    (below : pid.number < traffic.kernel.table.nextPid)
    (kept : Holds pid since ∨ traffic.kernel.table.find? pid = none) :
    Holds pid (since ++ [event]) ∨ event.after.kernel.table.find? pid = none := by
  rcases kept with holds | absent
  · cases present : event.after.kernel.table.find? pid with
    | none => exact Or.inr rfl
    | some record =>
        left
        intro other member
        rcases List.mem_append.mp member with before | last
        · exact holds other before
        · rw [List.mem_singleton.mp last]
          exact ProcessTable.contains_iff.mpr ⟨record, present⟩
  · exact Or.inr (proceeds.step.absent below absent)

theorem Proceeds.not_reserves (proceeds : traffic.Proceeds event others)
    (below : pid.number < traffic.kernel.table.nextPid) : ¬event.Reserves pid := by
  rintro ⟨parent, name, arguments, begins, goesOn⟩
  rcases proceeds.step.created?_cases goesOn rfl with ⟨before, _⟩ | ⟨_, _, _, _, _, fresh, _⟩
  · rw [begins] at before
    cases before
  · exact Pid.ne_of_lt below fresh

/-- Every creation in progress began with a reservation and was not disturbed since. -/
theorem Proceeds.begun (proceeds : traffic.Proceeds event others) (separate : traffic.Separate)
    (begun : ∀ stage ∈ traffic.calls, ∀ pid, stage.created? = some pid →
      Begun prior traffic stage pid) :
    ∀ stage ∈ event.after.calls, ∀ pid, stage.created? = some pid →
      Begun (prior ++ [event]) event.after stage pid := by
  intro stage member pid created
  rw [proceeds.calls] at member
  -- The creation is that of the event, begun now or before, or it is another one.
  rcases List.mem_append.mp member with goesOn | other
  · have leads := Option.mem_toList.mp goesOn
    rcases proceeds.step.created?_cases leads created with
      ⟨before, _⟩ | ⟨parent, name, arguments, begins, rfl, rfl, left⟩
    · have present := proceeds.mem_calls_of_created before
      rcases begun event.stage present pid before with
        ⟨earlier, reservation, during, rfl, reserves, carries, kept⟩
      refine ⟨earlier, reservation, during ++ [event], by simp, reserves, .own carries leads, ?_⟩
      exact proceeds.holds_snoc (proceeds.below_next pid before) kept
    · refine ⟨prior, event, [], rfl, ⟨parent, name, arguments, begins, leads⟩, .begun leads, ?_⟩
      left
      intro reservation only
      rw [List.mem_singleton.mp only, left]
      exact ProcessTable.contains_entered.mpr (Or.inl rfl)
  · have below := separate.below_next stage (proceeds.mem_calls stage other) pid created
    rcases begun stage (proceeds.mem_calls stage other) pid created with
      ⟨earlier, reservation, during, rfl, reserves, carries, kept⟩
    refine ⟨earlier, reservation, during ++ [event], by simp, reserves, ?_, ?_⟩
    · exact .other carries (proceeds.others_created other created) (proceeds.not_reserves below)
    · exact proceeds.holds_snoc below kept

theorem Proceeds.takesBack (proceeds : traffic.Proceeds event others)
    (begun : Begun prior traffic event.stage pid) (withdrawn : event.stage.withdrawn? = some pid) :
    ∃ earlier reservation during, prior = earlier ++ reservation :: during ∧
      TakesBack pid reservation during event := by
  rcases begun with ⟨earlier, reservation, during, rfl, reserves, carries, kept⟩
  have left := proceeds.step.withdraws withdrawn
  refine ⟨earlier, reservation, during, rfl, reserves, carries, ?_, ?_, ?_⟩
  · rcases kept with holds | absent
    · exact Or.inl holds
    · right
      rw [left, proceeds.before, ProcessTable.withdraw_of_find?_eq_none absent]
      refine ⟨?_, rfl⟩
      rw [← Bool.not_eq_true, ProcessTable.contains_iff]
      simp [absent]
  · rw [left, ← Bool.not_eq_true]
    simp [ProcessTable.contains_withdraw]
  · intro other different
    rw [left, proceeds.before, Bool.eq_iff_iff]
    simp [ProcessTable.contains_withdraw, Ne.symm different]

/-! ### Creations that succeed -/

/-- The process with which a creation returned. -/
def Event.started? (event : Event E) : Option Pid :=
  match event.stage, event.next with
  | .start _ launch, none => some launch.pid
  | _, _ => none

/-- The pids of the creations that succeeded, in order. -/
def startedPids (history : List (Event E)) : List Pid := history.filterMap Event.started?

theorem Event.started?_eq_some_iff :
    event.started? = some pid ↔
      ∃ parent launch, event.stage = .start parent launch ∧ event.next = none ∧ launch.pid = pid := by
  unfold Event.started?
  split
  · rename_i parent launch begins returns
    simp [begins, returns]
  · rename_i other
    simp only [reduceCtorEq, false_iff]
    rintro ⟨parent, launch, begins, returns, _⟩
    exact other parent launch begins returns

/-- The pid was handed out, and no creation in progress is about it. -/
def Settled (traffic : Traffic E) (pid : Pid) : Prop :=
  pid.number < traffic.kernel.table.nextPid ∧ ∀ stage ∈ traffic.calls, stage.created? ≠ some pid

theorem Proceeds.settled (proceeds : traffic.Proceeds event others)
    (settled : traffic.Settled pid) :
    event.after.Settled pid ∧ event.stage.created? ≠ some pid := by
  rcases settled with ⟨below, idle⟩
  have other : event.stage.created? ≠ some pid := by
    intro created
    exact idle event.stage (proceeds.mem_calls_of_created created) created
  refine ⟨⟨proceeds.step.lt_nextPid below other, ?_⟩, other⟩
  intro stage member created
  rw [proceeds.calls] at member
  rcases List.mem_append.mp member with goesOn | beside
  · rcases proceeds.step.created?_cases (Option.mem_toList.mp goesOn) created with
      ⟨before, _⟩ | ⟨_, _, _, _, _, fresh, _⟩
    · exact other before
    · exact Pid.ne_of_lt below fresh
  · exact idle stage (proceeds.mem_calls stage beside) created

theorem Proceeds.settled_of_started (proceeds : traffic.Proceeds event others)
    (started : event.started? = some pid) : event.after.Settled pid := by
  rcases Event.started?_eq_some_iff.mp started with ⟨parent, launch, begins, returns, rfl⟩
  have created : event.stage.created? = some launch.pid := by
    rw [begins]
    rfl
  have unchanged : event.after.kernel = traffic.kernel := by
    have step := proceeds.step
    rw [begins] at step
    exact step.start_unchanged
  refine ⟨?_, ?_⟩
  · rw [unchanged]
    exact proceeds.below_next launch.pid created
  · intro stage member same
    rw [proceeds.calls, returns] at member
    exact proceeds.others_created member same created

/-- Whatever else happens meanwhile, creations keep apart. -/
structure Undisturbed (history : List (Event E)) : Prop where
  /-- A process that is to be activated always can be. -/
  activates : ∀ event ∈ history, ∀ parent pid loaded, event.stage = .activate parent pid loaded →
    event.next = some (.start parent ⟨pid, loaded.entry, loaded.space.arguments⟩)
  /-- A creation withdraws nothing but what it reserved itself. -/
  takesBack : ∀ {prior withdrawal later pid}, history = prior ++ withdrawal :: later →
    withdrawal.stage.withdrawn? = some pid →
      ∃ earlier reservation during, prior = earlier ++ reservation :: during ∧
        TakesBack pid reservation during withdrawal
  started_nodup : (startedPids history).Nodup

/-- The history accounts for the creations in progress and for those that succeeded. -/
structure Recounts (history : List (Event E)) (traffic : Traffic E) : Prop where
  undisturbed : Undisturbed history
  begun : ∀ stage ∈ traffic.calls, ∀ pid, stage.created? = some pid →
    Begun history traffic stage pid
  settled : ∀ pid ∈ startedPids history, traffic.Settled pid

theorem startedPids_snoc (history : List (Event E)) (event : Event E) :
    startedPids (history ++ [event]) = startedPids history ++ event.started?.toList := by
  cases shape : event.started? <;> simp [startedPids, shape]

theorem Proceeds.undisturbed (proceeds : traffic.Proceeds event others)
    (recounts : Recounts prior traffic) : Undisturbed (prior ++ [event]) := by
  refine ⟨?_, ?_, ?_⟩
  · intro other member parent pid loaded begins
    rcases List.mem_append.mp member with before | last
    · exact recounts.undisturbed.activates other before parent pid loaded begins
    · rw [List.mem_singleton.mp last] at begins ⊢
      have embryo := proceeds.embryo pid (by rw [begins]; rfl)
      have step := proceeds.step
      rw [begins] at step
      exact step.activates embryo
  · intro shorter withdrawal later pid split withdrawn
    rcases append_singleton_eq_append_cons split with ⟨rfl, rfl⟩ | ⟨rest, before⟩
    · have created := Stage.created?_of_withdrawn? withdrawn
      have present := proceeds.mem_calls_of_created created
      exact proceeds.takesBack (recounts.begun event.stage present pid created) withdrawn
    · exact recounts.undisturbed.takesBack before withdrawn
  · rw [startedPids_snoc]
    apply List.nodup_append.mpr
    refine ⟨recounts.undisturbed.started_nodup, ?_, ?_⟩
    · cases event.started? <;> simp
    · rintro pid before _ started rfl
      rcases Event.started?_eq_some_iff.mp (Option.mem_toList.mp started) with
        ⟨parent, launch, begins, _, rfl⟩
      have idle := (proceeds.settled (recounts.settled launch.pid before)).2
      rw [begins] at idle
      exact idle rfl

theorem Proceeds.recounts (proceeds : traffic.Proceeds event others) (separate : traffic.Separate)
    (recounts : Recounts prior traffic) : Recounts (prior ++ [event]) event.after := by
  refine ⟨proceeds.undisturbed recounts, proceeds.begun separate recounts.begun, ?_⟩
  intro pid member
  rw [startedPids_snoc] at member
  rcases List.mem_append.mp member with before | started
  · exact (proceeds.settled (recounts.settled pid before)).1
  · exact proceeds.settled_of_started (Option.mem_toList.mp started)

theorem recounts_boot (config : KernelConfig) (registry : ImageRegistry E) :
    Recounts [] (boot config registry) := by
  refine ⟨⟨?_, ?_, List.nodup_nil⟩, ?_, ?_⟩
  · intro event member
    cases member
  · intro prior withdrawal later pid split
    cases prior <;> cases split
  · intro stage member
    cases member
  · intro pid member
    cases member

theorem recounts_run (config : KernelConfig) (registry : ImageRegistry E) (schedule : List Turn) :
    Recounts ((boot config registry).run schedule).1 ((boot config registry).run schedule).2 :=
  separate_induction Recounts [] schedule (separate_boot config registry)
    (recounts_boot config registry)
    (fun separate recounts proceeds => proceeds.recounts separate recounts)

/-- A child runs, exits and is collected, and then the engine refuses its start. -/
def refusedAfterCollection : List Turn :=
  [.begin (.spawn none "a.coff" []), .advance 0 none, .advance 0 none, .advance 0 none,
    .begin (.spawn (some ⟨0⟩) "a.coff" []), .advance 0 none, .advance 0 none,
    .begin (.exit ⟨1⟩ (some 7)), .begin (.join ⟨0⟩ ⟨1⟩), .advance 0 none,
    .advance 2 (some .noExecutionContext), .advance 0 none]

-- The withdrawal at the end finds nothing to take back, and the pid stays used.
example :
    ((boot {} (.ofList [⟨"a.coff", 1, ()⟩])).run refusedAfterCollection).1.filterMap
        (fun event => event.stage.withdrawn?.map fun pid =>
          (pid, event.before.kernel.table.contains pid, event.after.kernel.table.nextPid)) =
      [(⟨1⟩, false, 2)] := by
  decide +kernel

end Traffic

end Lifecycle
