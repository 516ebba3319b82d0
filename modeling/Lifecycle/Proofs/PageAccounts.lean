import Lifecycle.Proofs.ExitAndHalt
import Lifecycle.Proofs.PowerOff

/-!
# Page accounts

How many pages the machine counts as in use, and how many pages a process owns.

The pages in use are the size that the pool reports less the frames that are free. The pool reports
the size that it was asked for, and starts with the frames that the low 32 bits of it count, so on a
larger memory a multiple of `frameNumbers` is counted as in use from the start. On a memory whose
frames can all be numbered, the pages in use are exactly the pages of the processes that run, and each
of these owns as many as the 64-bit sum of its image, its stack and its arguments.
-/

namespace Lifecycle

/-- The pages that are not free. -/
def Loader.pagesInUse {E : Type} (loader : Loader E) : Nat := loader.totalPages - loader.freePages

/-- The pages of a process, if it runs. -/
def ProcessRecord.runningPages (record : ProcessRecord) : Nat :=
  if record.state = .running then (record.space.map AddressSpace.pageCount).getD 0 else 0

/-- The frames of a memory that cannot be numbered, and so are never free. -/
def unnumberedFrames (total : Nat) : Nat := total - total % frameNumbers

theorem unnumberedFrames_eq_zero_iff {total : Nat} :
    unnumberedFrames total = 0 ↔ total < frameNumbers := by
  rw [unnumberedFrames, Nat.sub_eq_zero_iff_le]
  constructor
  · intro whole
    have positive : 0 < frameNumbers := by decide
    exact whole.trans_lt (Nat.mod_lt total positive)
  · intro fits
    exact (Nat.mod_eq_of_lt fits).ge

namespace ProcessTable

variable {table : ProcessTable} {pid other caller target : Pid} {parent : Option Pid}
  {space : AddressSpace} {status : Option Int32}

/-- The pages of all processes that run. -/
def runningPages (table : ProcessTable) : Nat := table.records.sum ProcessRecord.runningPages

/-- The memory that a process owns. -/
def spaceOf? (table : ProcessTable) (pid : Pid) : Option AddressSpace :=
  (table.find? pid).bind ProcessRecord.space

/-! ### The memory of a process after each operation -/

theorem ignoresChildren_space : IgnoresChildren ProcessRecord.space := fun _ _ => rfl

theorem spaceOf?_eq_join :
    table.spaceOf? pid = ((table.find? pid).map ProcessRecord.space).join := by
  cases present : table.find? pid <;> simp [spaceOf?, present]

theorem spaceOf?_entered :
    (table.entered parent).spaceOf? pid =
      if pid = ⟨table.nextPid⟩ then none else table.spaceOf? pid := by
  rw [spaceOf?_eq_join, map_find?_entered ignoresChildren_space, spaceOf?_eq_join]
  split <;> rfl

theorem spaceOf?_activated :
    (table.activated pid space).spaceOf? other =
      if pid = other then (table.find? other).map fun _ => space else table.spaceOf? other := by
  rw [spaceOf?, spaceOf?, find?_activated]
  by_cases same : pid = other
  · cases table.find? other <;> simp [same]
  · simp [same]

theorem spaceOf?_withdraw :
    (table.withdraw pid).2.spaceOf? other = if pid = other then none else table.spaceOf? other := by
  rw [spaceOf?_eq_join, map_find?_withdraw ignoresChildren_space, spaceOf?_eq_join]
  split <;> rfl

theorem spaceOf?_terminated :
    (table.terminated pid status).spaceOf? other =
      if pid = other then none else table.spaceOf? other := by
  rw [spaceOf?, spaceOf?, find?_terminated]
  by_cases same : pid = other
  · cases table.find? other <;> simp [same]
  · simp [same]

theorem spaceOf?_collected :
    (table.collected caller target).spaceOf? other =
      if target = other then none else table.spaceOf? other := by
  rw [spaceOf?_eq_join, map_find?_collected ignoresChildren_space, spaceOf?_eq_join]
  split <;> rfl

/-! ### Running processes own the pages -/

theorem WellFormed.runningPages_eq (wellFormed : table.WellFormed) :
    table.runningPages = table.ownedFrames.length := by
  unfold runningPages ownedFrames
  rw [List.length_flatMap]
  apply congrArg List.sum
  apply List.map_congr_left
  intro record member
  rcases (PidMap.mem_values_iff table.records record).mp member with ⟨pid, present⟩
  have owner := wellFormed.space_iff present
  unfold ProcessRecord.runningPages ProcessRecord.frames Lifecycle.framesOf
  cases owned : record.space with
  | none => simp
  | some space =>
      have running : record.state = .running := owner.mp (by simp [owned])
      simp [running, AddressSpace.pageCount]

theorem runningPages_eq_zero (idle : ∀ pid, table.stateOf? pid ≠ some .running) :
    table.runningPages = 0 := by
  apply PidMap.sum_eq_zero
  intro pid record present
  have stopped : record.state ≠ .running := by
    intro running
    exact idle pid (stateOf?_eq_some_iff.mpr ⟨record, present, running⟩)
  simp [ProcessRecord.runningPages, stopped]

/-- While one process runs, its pages are the only ones. -/
theorem WellFormed.runningPages_of_onlyRunning (wellFormed : table.WellFormed)
    (only : table.OnlyRunning pid) (owned : table.spaceOf? pid = some space) :
    table.runningPages = space.pageCount := by
  have alone : ∀ other, table.stateOf? other = some .running ↔ other = pid := by
    intro other
    constructor
    · exact only.alone other
    · rintro rfl
      exact only.running
  have frames : table.framesOf pid = space.frames := by
    rw [framesOf, ← spaceOf?, owned]
    rfl
  rw [wellFormed.runningPages_eq, (wellFormed.ownedFrames_perm alone).length_eq, frames]
  rfl

end ProcessTable

theorem Kernel.Conserves.pagesInUse_eq {E : Type} {kernel : Kernel E} {total : Nat}
    (conserves : kernel.Conserves total) (wellFormed : kernel.table.WellFormed)
    (size : kernel.loader.pool.total = total) :
    kernel.loader.pagesInUse = kernel.table.runningPages + unnumberedFrames total := by
  have counted := conserves.permuted.length_eq
  rw [List.length_append, List.length_range] at counted
  have reduced : total % frameNumbers ≤ total := Nat.mod_le total frameNumbers
  unfold Loader.pagesInUse Loader.totalPages Loader.freePages FramePool.freeCount unnumberedFrames
  rw [wellFormed.runningPages_eq, size]
  omega

/-! ### The pages of one process -/

/-- Every process that owns memory owns what its image, its stack and its arguments add up to. -/
structure Kernel.Provisioned {E : Type} (registry : ImageRegistry E) (stackPages : Nat)
    (kernel : Kernel E) : Prop where
  registry_eq : kernel.loader.registry = registry
  stackPages_eq : kernel.loader.stackPages = stackPages
  pageCount_eq : ∀ {pid space}, kernel.table.spaceOf? pid = some space →
    ∃ image, registry.find? space.image = some image ∧
      space.pageCount = (image.pages + stackPages + argumentPages) % values64

theorem FramePool.length_of_take? {pool rest : FramePool} {count : Nat} {frames : List Frame}
    (taken : pool.take? count = some (frames, rest)) : frames.length = count := by
  unfold take? at taken
  split at taken
  · rename_i enough
    cases taken
    simpa [freeCount] using enough
  · cases taken

namespace Kernel.Provisioned

variable {E : Type} {kernel next : Kernel E} {registry : ImageRegistry E} {stackPages : Nat}

/-- It is kept as long as nothing is loaded. -/
theorem of_owned (provisioned : kernel.Provisioned registry stackPages)
    (sameRegistry : next.loader.registry = kernel.loader.registry)
    (sameStack : next.loader.stackPages = kernel.loader.stackPages)
    (owned : ∀ {pid space}, next.table.spaceOf? pid = some space →
      kernel.table.spaceOf? pid = some space) : next.Provisioned registry stackPages where
  registry_eq := sameRegistry.trans provisioned.registry_eq
  stackPages_eq := sameStack.trans provisioned.stackPages_eq
  pageCount_eq found := provisioned.pageCount_eq (owned found)

theorem launched (provisioned : kernel.Provisioned registry stackPages) {parent : Option Pid}
    {name : String} {arguments : List String} {entry : E} {space : AddressSpace}
    {loader : Loader E} (built : kernel.loader.load name arguments = .ok (⟨entry, space⟩, loader)) :
    (kernel.launched parent space loader).Provisioned registry stackPages := by
  rcases provisioned with ⟨rfl, rfl, counted⟩
  rcases Loader.load_eq_ok built with ⟨image, installed, taken, loaded, rest⟩
  have named : space.image = name := congrArg (fun loaded => loaded.space.image) loaded
  have pages := FramePool.length_of_take? taken
  have sameRegistry := congrArg Loader.registry rest
  have sameStack := congrArg Loader.stackPages rest
  refine ⟨sameRegistry, sameStack, ?_⟩
  intro pid other owned
  simp only [Kernel.launched, ProcessTable.spaceOf?_activated, ProcessTable.find?_entered,
    ProcessTable.spaceOf?_entered] at owned
  by_cases newcomer : (⟨kernel.table.nextPid⟩ : Pid) = pid
  · subst newcomer
    simp only [if_true, Option.map_some, Option.some.injEq] at owned
    subst other
    rw [named]
    exact ⟨image, installed, pages⟩
  · simp only [if_neg newcomer, if_neg (Ne.symm newcomer)] at owned
    exact counted owned

end Kernel.Provisioned

namespace Activity

variable {E : Type} {activity next last : Activity E} {happening : Happening}
  {effects : List Effect} {registry : ImageRegistry E} {stackPages : Nat}

theorem provisioned_boot (config : KernelConfig) (registry : ImageRegistry E) :
    (Kernel.boot config registry).Provisioned registry config.stackPages where
  registry_eq := rfl
  stackPages_eq := rfl
  pageCount_eq owned := by cases owned

theorem Step.provisioned (step : Step activity happening effects next)
    (provisioned : activity.kernel.Provisioned registry stackPages) :
    next.kernel.Provisioned registry stackPages := by
  cases step with
  | launched inRange known built => exact provisioned.launched built
  | withdrawn =>
      rw [Kernel.fst_abandon]
      refine .of_owned provisioned rfl rfl ?_
      intro pid space owned
      simp only [ProcessTable.spaceOf?_withdraw] at owned
      exact (Option.ite_none_left_eq_some.mp owned).2
  | collected looks child ended =>
      refine .of_owned provisioned rfl rfl ?_
      intro pid space owned
      simp only [ProcessTable.spaceOf?_collected] at owned
      exact (Option.ite_none_left_eq_some.mp owned).2
  | departed running =>
      refine .of_owned provisioned rfl rfl ?_
      intro pid space owned
      simp only [Kernel.departed, ProcessTable.spaceOf?_terminated] at owned
      exact (Option.ite_none_left_eq_some.mp owned).2
  | _ => exact provisioned.of_owned rfl rfl fun owned => owned

theorem pagesInUse_run (config : KernelConfig) (registry : ImageRegistry E) (moves : List Move) :
    ((boot config registry).run moves).2.kernel.loader.pagesInUse =
      ((boot config registry).run moves).2.kernel.table.runningPages +
        unnumberedFrames config.physPages := by
  have sound := sound_boot config registry
  have steps := steps_run sound moves
  have kept := steps.preserves
    (fun activity => activity.kernel.loader.pool.total = config.physPages) sound rfl
    (fun _ same step => step.total.trans same)
  exact (conserves_run config registry moves).pagesInUse_eq kept.1.wellFormed kept.2

end Activity

end Lifecycle
