import Lifecycle.Proofs.EngineRuns
import Mathlib.Algebra.Order.Group.Multiset

/-!
# Ownership of frames

Every frame of the memory is free or owned by exactly one process, in every activity of every
session. The frames of the free list and of all records are summed up as one multiset, and no step
changes that sum: a step moves frames between the free list and the record of one process, in one of
three places.

A process is launched with frames from the free list, it loses them to the free list when it ends,
and a refused start takes back what the process still owns by then. A record that is collected owns
nothing any more.
-/

namespace Lifecycle

/-- The frames that the process of a record owns. -/
def ProcessRecord.frames (record : ProcessRecord) : List Frame := framesOf record.space

/-- The frames of a record without their order. -/
def frameWeight (record : ProcessRecord) : Multiset Frame := record.frames

theorem frameWeight_of_space_eq_none {record : ProcessRecord} (bare : record.space = none) :
    frameWeight record = 0 := by
  simp [frameWeight, ProcessRecord.frames, framesOf, bare]

theorem ignoresChildren_frameWeight : ProcessTable.IgnoresChildren frameWeight := fun _ _ => rfl

namespace ProcessTable

variable {table : ProcessTable} {pid : Pid} {record : ProcessRecord} {parent : Option Pid}

/-- The frames that processes own, by ascending pid. -/
def ownedFrames (table : ProcessTable) : List Frame :=
  table.records.values.flatMap ProcessRecord.frames

theorem coe_ownedFrames (table : ProcessTable) :
    (table.ownedFrames : Multiset Frame) = table.records.sum frameWeight := by
  unfold ownedFrames PidMap.sum
  induction table.records.values with
  | nil => rfl
  | cons record rest ih =>
      rw [List.flatMap_cons, ← Multiset.coe_add, ih, List.map_cons, List.sum_cons]
      rfl

theorem framesOf_of_find?_eq_some (present : table.find? pid = some record) :
    table.framesOf pid = record.frames := by
  simp [framesOf, ProcessRecord.frames, present]

theorem framesOf_of_find?_eq_none (absent : table.find? pid = none) : table.framesOf pid = [] := by
  simp [framesOf, Lifecycle.framesOf, absent]

theorem exists_of_mem_framesOf {frame : Frame} (owned : frame ∈ table.framesOf pid) :
    ∃ record, table.find? pid = some record ∧ frame ∈ record.frames := by
  cases present : table.find? pid with
  | none =>
      rw [framesOf_of_find?_eq_none present] at owned
      cases owned
  | some record =>
      rw [framesOf_of_find?_eq_some present] at owned
      exact ⟨record, rfl, owned⟩

/-! ### The frames of all records after each operation -/

theorem WellFormed.frames_entered (wellFormed : table.WellFormed) (parent : Option Pid) :
    (table.entered parent).records.sum frameWeight = table.records.sum frameWeight := by
  have bare : frameWeight (.newborn ⟨table.nextPid⟩ parent) = 0 := frameWeight_of_space_eq_none rfl
  rw [sum_entered ignoresChildren_frameWeight wellFormed.find?_nextPid, bare, zero_add]

theorem frames_activated (present : table.find? pid = some record) (bare : record.space = none)
    (space : AddressSpace) :
    (table.activated pid space).records.sum frameWeight =
      (space.frames : Multiset Frame) + table.records.sum frameWeight := by
  rw [sum_activated present, PidMap.sum_of_find?_eq_some frameWeight present,
    frameWeight_of_space_eq_none bare, zero_add]
  rfl

theorem WellFormed.frames_launched (wellFormed : table.WellFormed) (space : AddressSpace) :
    ((table.entered parent).activated ⟨table.nextPid⟩ space).records.sum frameWeight =
      (space.frames : Multiset Frame) + table.records.sum frameWeight := by
  have newcomer : (table.entered parent).find? ⟨table.nextPid⟩ =
      some (.newborn ⟨table.nextPid⟩ parent) := by
    simp [find?_entered]
  rw [frames_activated newcomer rfl, wellFormed.frames_entered]

theorem frames_withdraw (pid : Pid) :
    (table.framesOf pid : Multiset Frame) + (table.withdraw pid).2.records.sum frameWeight =
      table.records.sum frameWeight := by
  cases present : table.find? pid with
  | none =>
      rw [withdraw_of_find?_eq_none present, framesOf_of_find?_eq_none present]
      exact zero_add _
  | some record =>
      rw [sum_withdraw ignoresChildren_frameWeight present, framesOf_of_find?_eq_some present,
        PidMap.sum_of_find?_eq_some frameWeight present]
      rfl

theorem frames_terminated {status : Option Int32} (present : table.find? pid = some record) :
    (table.framesOf pid : Multiset Frame) + (table.terminated pid status).records.sum frameWeight =
      table.records.sum frameWeight := by
  rw [sum_terminated present, framesOf_of_find?_eq_some present,
    PidMap.sum_of_find?_eq_some frameWeight present, frameWeight_of_space_eq_none rfl, zero_add]
  rfl

theorem WellFormed.frames_collected (wellFormed : table.WellFormed) {caller target : Pid}
    {termination : Termination} (ended : table.stateOf? target = some (.exited termination)) :
    (table.collected caller target).records.sum frameWeight = table.records.sum frameWeight := by
  rcases stateOf?_eq_some_iff.mp ended with ⟨record, present, state⟩
  have bare := wellFormed.space_eq_none present (by simp [state])
  rw [sum_collected ignoresChildren_frameWeight, PidMap.sum_of_find?_eq_some frameWeight present,
    frameWeight_of_space_eq_none bare, zero_add]

end ProcessTable

/-! ### The ledger -/

namespace Kernel

variable {E : Type} {kernel : Kernel E}

/-- The frames of the free list and of all processes. -/
def allFrames (kernel : Kernel E) : Multiset Frame :=
  (kernel.loader.pool.free : Multiset Frame) + kernel.table.records.sum frameWeight

theorem coe_regained (loader : Loader E) (frames : List Frame) :
    ((loader.regained frames).pool.free : Multiset Frame) =
      (frames : Multiset Frame) + (loader.pool.free : Multiset Frame) := by
  simp only [Loader.regained, FramePool.giveBack, ← Multiset.coe_add, Multiset.coe_reverse]

/-- Building a space takes its frames from the free list. -/
theorem coe_free_of_load {loader next : Loader E} {name : String} {arguments : List String}
    {loaded : LoadedImage E} (built : loader.load name arguments = .ok (loaded, next)) :
    (loader.pool.free : Multiset Frame) =
      (loaded.space.frames : Multiset Frame) + (next.pool.free : Multiset Frame) := by
  have restored : next.regained loaded.space.frames = loader := Loader.unload_of_load built
  rw [← restored]
  exact coe_regained next loaded.space.frames

theorem allFrames_regained (frames : List Frame) :
    ({ kernel with loader := kernel.loader.regained frames } : Kernel E).allFrames =
      (frames : Multiset Frame) + kernel.allFrames := by
  unfold allFrames
  rw [coe_regained, add_assoc]

/-- Frames that go from the records to the free list stay accounted for. -/
theorem allFrames_eq_of_regained {next : Kernel E} {frames : List Frame}
    (regained : next.loader = kernel.loader.regained frames)
    (lost : (frames : Multiset Frame) + next.table.records.sum frameWeight =
      kernel.table.records.sum frameWeight) : next.allFrames = kernel.allFrames := by
  unfold allFrames
  rw [regained, coe_regained, ← lost, add_comm (frames : Multiset Frame), add_assoc]

theorem allFrames_launched (wellFormed : kernel.table.WellFormed) {parent : Option Pid}
    {name : String} {arguments : List String} {entry : E} {space : AddressSpace}
    {loader : Loader E} (built : kernel.loader.load name arguments = .ok (⟨entry, space⟩, loader)) :
    (kernel.launched parent space loader).allFrames = kernel.allFrames := by
  unfold allFrames launched
  rw [wellFormed.frames_launched, coe_free_of_load built, ← add_assoc,
    add_comm (space.frames : Multiset Frame)]

end Kernel

namespace Activity

variable {E : Type} {activity next : Activity E} {happening : Happening} {effects : List Effect}

theorem Step.allFrames (step : Step activity happening effects next) (sound : activity.Sound) :
    next.kernel.allFrames = activity.kernel.allFrames := by
  have wellFormed := sound.wellFormed
  cases step with
  | refused refuses => rfl
  | launched inRange known built => exact Kernel.allFrames_launched wellFormed built
  | created => rfl
  | withdrawn =>
      rw [Kernel.fst_abandon]
      exact Kernel.allFrames_eq_of_regained rfl (ProcessTable.frames_withdraw _)
  | suspended looks child unfinished => rfl
  | turnedDown looks stranger => rfl
  | collected looks child ended =>
      simp only [Kernel.allFrames]
      rw [wellFormed.frames_collected ended]
  | givenUp => rfl
  | exitIgnored idle => rfl
  | departed running =>
      rcases ProcessTable.stateOf?_eq_some_iff.mp running with ⟨record, present, _⟩
      exact Kernel.allFrames_eq_of_regained rfl (ProcessTable.frames_terminated present)
  | haltGranted last => rfl
  | haltRefused busy => rfl

/-- The size that the pool reports never changes. -/
theorem Step.total (step : Step activity happening effects next) :
    next.kernel.loader.pool.total = activity.kernel.loader.pool.total := by
  cases step with
  | launched inRange known built =>
      rw [← Loader.unload_of_load built]
      rfl
  | withdrawn =>
      rw [Kernel.fst_abandon]
      rfl
  | _ => rfl

end Activity

/-- Every frame of a memory of `total` frames is free or owned by one process. -/
structure Kernel.Conserves {E : Type} (total : Nat) (kernel : Kernel E) : Prop where
  permuted : (kernel.loader.pool.free ++ kernel.table.ownedFrames).Perm
    (List.range (total % frameNumbers))
  nodup : (kernel.loader.pool.free ++ kernel.table.ownedFrames).Nodup
  not_free : ∀ {pid frame}, frame ∈ kernel.table.framesOf pid → frame ∉ kernel.loader.pool.free
  one_owner : ∀ {pid other frame}, frame ∈ kernel.table.framesOf pid →
    frame ∈ kernel.table.framesOf other → pid = other
  /-- The free list never holds more frames than the pool. -/
  bounded : kernel.loader.pool.freeCount ≤ kernel.loader.pool.total
  /-- While no process runs, all frames are free. -/
  idle : (∀ pid, kernel.table.stateOf? pid ≠ some .running) →
    kernel.loader.pool.free.Perm (List.range (total % frameNumbers))

namespace Kernel

variable {E : Type} {kernel : Kernel E} {total : Nat}

theorem conserves_of_allFrames (wellFormed : kernel.table.WellFormed)
    (counted : kernel.allFrames = (List.range (total % frameNumbers) : Multiset Frame))
    (size : kernel.loader.pool.total = total) : kernel.Conserves total := by
  have permuted : (kernel.loader.pool.free ++ kernel.table.ownedFrames).Perm
      (List.range (total % frameNumbers)) := by
    rw [← Multiset.coe_eq_coe, ← Multiset.coe_add, ProcessTable.coe_ownedFrames]
    exact counted
  have nodup : (kernel.loader.pool.free ++ kernel.table.ownedFrames).Nodup :=
    permuted.nodup_iff.mpr List.nodup_range
  have allNodup : kernel.allFrames.Nodup := by
    rw [counted]
    exact Multiset.coe_nodup.mpr List.nodup_range
  rcases Multiset.nodup_add.mp allNodup with ⟨_, ownedNodup, apart⟩
  refine ⟨permuted, nodup, ?_, ?_, ?_, ?_⟩
  · intro pid frame owned free
    rcases ProcessTable.exists_of_mem_framesOf owned with ⟨record, present, member⟩
    rw [PidMap.sum_of_find?_eq_some frameWeight present] at apart
    apply Multiset.disjoint_left.mp apart (Multiset.mem_coe.mpr free)
    exact Multiset.mem_add.mpr (Or.inl (Multiset.mem_coe.mpr member))
  · intro pid other frame owned otherOwned
    by_contra different
    rcases ProcessTable.exists_of_mem_framesOf owned with ⟨record, present, member⟩
    rcases ProcessTable.exists_of_mem_framesOf otherOwned with ⟨otherRecord, found, otherMember⟩
    have remains : (kernel.table.records.erase pid).find? other = some otherRecord := by
      rw [PidMap.find?_erase, if_neg different]
      exact found
    -- Two owners contribute the frame to the sum twice.
    rw [PidMap.sum_of_find?_eq_some frameWeight present,
      PidMap.sum_of_find?_eq_some frameWeight remains] at ownedNodup
    rcases Multiset.nodup_add.mp ownedNodup with ⟨_, _, disjoint⟩
    apply Multiset.disjoint_left.mp disjoint (Multiset.mem_coe.mpr member)
    exact Multiset.mem_add.mpr (Or.inl (Multiset.mem_coe.mpr otherMember))
  · have bound := permuted.length_eq
    rw [List.length_append, List.length_range] at bound
    have reduced : total % frameNumbers ≤ total := Nat.mod_le total frameNumbers
    rw [size, FramePool.freeCount]
    omega
  · intro idle
    have nothing : kernel.table.records.sum frameWeight = 0 := by
      apply PidMap.sum_eq_zero
      intro pid record present
      apply frameWeight_of_space_eq_none
      apply wellFormed.space_eq_none present
      intro running
      exact idle pid (ProcessTable.stateOf?_eq_some_iff.mpr ⟨record, present, running⟩)
    rw [allFrames, nothing, add_zero] at counted
    exact Multiset.coe_eq_coe.mp counted

end Kernel

namespace Activity

variable {E : Type} {activity last : Activity E}

theorem allFrames_boot (config : KernelConfig) (registry : ImageRegistry E) :
    (boot config registry).kernel.allFrames =
      (List.range (config.physPages % frameNumbers) : Multiset Frame) := by
  simp [boot, Kernel.boot, Kernel.allFrames, Loader.ofRegistry, FramePool.ofTotal,
    ProcessTable.ofMaxPid]

theorem Steps.conserves {config : KernelConfig} {registry : ImageRegistry E}
    {history : List (Moment E)} (steps : Steps (boot config registry) history last) :
    last.kernel.Conserves config.physPages := by
  have kept := steps.preserves
    (fun activity =>
      activity.kernel.allFrames = (boot config registry).kernel.allFrames ∧
        activity.kernel.loader.pool.total = (boot config registry).kernel.loader.pool.total)
    (sound_boot config registry) ⟨rfl, rfl⟩
    (fun sound kept step =>
      ⟨(step.allFrames sound).trans kept.1, step.total.trans kept.2⟩)
  rcases kept with ⟨sound, counted, size⟩
  apply Kernel.conserves_of_allFrames sound.wellFormed
  · rw [counted, allFrames_boot]
  · exact size

theorem conserves_run (config : KernelConfig) (registry : ImageRegistry E) (moves : List Move) :
    ((boot config registry).run moves).2.kernel.Conserves config.physPages :=
  (steps_run (sound_boot config registry) moves).conserves

/--
Whatever calls are made, and however they nest, every frame of the memory is free or owned by one
process. This holds after every move of every session, so also whenever the engine is called, and
after every script.
-/
theorem frames_are_conserved (config : KernelConfig) :
    (∀ {E : Type} (registry : ImageRegistry E) (moves : List Move),
        ((boot config registry).run moves).2.kernel.Conserves config.physPages) ∧
      ∀ (images : List (Image String)) (console : Console) (steps : List Session.Step),
        (Session.runSteps steps (Session.boot config images console)).2.system.kernel.Conserves
          config.physPages := by
  refine ⟨conserves_run config, ?_⟩
  intro images console steps
  rcases Session.exists_run_runSteps config images console steps with ⟨moves, reached⟩
  have conserved := conserves_run config (.ofList images) moves
  rw [reached] at conserved
  exact conserved

end Activity

end Lifecycle
