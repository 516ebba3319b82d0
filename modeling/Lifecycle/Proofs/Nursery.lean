import Lifecycle.Proofs.ModestPrograms
import Lifecycle.Proofs.PageAccounts

/-!
# The first process and its children

While the first process runs and has modest children only, everything that its system calls depend
on is known from what it has done so far: which children it has not collected, how many it has
created, and what it has written. What is left open is just which of the children have run already.

This file states that as an invariant, of the kernel and of the machine around it. Running one of
the children that have not run yet keeps it.
-/

namespace Lifecycle

/-! ### Families -/

/-- What stays the same while the children of the first process come and go. -/
structure Home where
  /-- The loader while no child runs. -/
  loader : Loader Main
  /-- The memory of the first process. -/
  space : AddressSpace
  /-- Pages of code and data of each child. -/
  imagePages : Nat
  maxPid : Nat
  /-- Programs can be told every pid. -/
  capped : maxPid ≤ pidLimit
  /-- Any number of processes may be started. -/
  unlimited : Prop

/-- The pages that each child takes. -/
def Home.childPages (home : Home) : Nat :=
  (home.imagePages + home.loader.stackPages + argumentPages) % values64

namespace Kernel

/--
The first process runs, it has created so many processes, and `children` are those that it has not
collected. Those among them that are to run yet still have their memory; the others have exited.
-/
structure Family (home : Home) (kernel : Kernel Main) (unrun children : List Pid)
    (created : Nat) : Prop where
  wellFormed : kernel.table.WellFormed
  root_space : kernel.table.spaceOf? .root = some home.space
  contains_iff : ∀ pid, kernel.table.contains pid = true ↔ pid = .root ∨ pid ∈ children
  parent_eq : ∀ child ∈ children, kernel.table.parentOf? child = some .root
  unrun_nodup : unrun.Nodup
  unrun_subset : unrun ⊆ children
  unrun_space : ∀ child ∈ unrun, ∃ space,
    kernel.table.spaceOf? child = some space ∧ space.pageCount = home.childPages
  exited : ∀ child ∈ children, child ∉ unrun →
    kernel.table.stateOf? child = some (.exited (.exit 0))
  running_eq : kernel.table.running = unrun.length + 1
  memory : ∃ free, kernel.loader = home.loader.withFree free ∧
    free.length + home.childPages * unrun.length = home.loader.freePages
  nextPid_eq : kernel.table.nextPid = created + 1
  maxPid_eq : kernel.table.maxPid = home.maxPid

namespace Family

variable {home : Home} {kernel next : Kernel Main} {unrun others children : List Pid}
  {created : Nat} {child pid : Pid}

theorem running_of_space {space : AddressSpace} {table : ProcessTable}
    (wellFormed : table.WellFormed) (owned : table.spaceOf? pid = some space) :
    table.stateOf? pid = some .running := by
  rcases Option.bind_eq_some_iff.mp owned with ⟨record, present, owns⟩
  have running : record.state = .running := (wellFormed.space_iff present).mp (by simp [owns])
  exact ProcessTable.stateOf?_eq_some_iff.mpr ⟨record, present, running⟩

theorem root_running (family : kernel.Family home unrun children created) :
    kernel.table.stateOf? .root = some .running :=
  running_of_space family.wellFormed family.root_space

theorem unrun_running (family : kernel.Family home unrun children created)
    (member : child ∈ unrun) : kernel.table.stateOf? child = some .running := by
  rcases family.unrun_space child member with ⟨space, owned, _⟩
  exact running_of_space family.wellFormed owned

theorem ne_root (family : kernel.Family home unrun children created) (member : child ∈ children) :
    child ≠ .root := by
  rintro rfl
  have below := family.wellFormed.lt_of_parentOf? (family.parent_eq _ member)
  exact Nat.lt_irrefl _ below

theorem ne_nextPid (family : kernel.Family home unrun children created)
    (known : pid = .root ∨ pid ∈ children) : pid ≠ ⟨created + 1⟩ := by
  rcases ProcessTable.contains_iff.mp ((family.contains_iff pid).mpr known) with ⟨record, present⟩
  have below := family.wellFormed.below_next present
  rw [family.nextPid_eq] at below
  exact Pid.ne_of_lt below

theorem isChild_iff (family : kernel.Family home unrun children created) :
    kernel.table.IsChild .root pid ↔ pid ∈ children := by
  constructor
  · rintro ⟨_, named⟩
    rcases ProcessTable.parentOf?_eq_some_iff.mp named with ⟨record, present, _⟩
    rcases (family.contains_iff pid).mp (ProcessTable.contains_iff.mpr ⟨record, present⟩) with
      rfl | member
    · have below := family.wellFormed.lt_of_parentOf? named
      exact absurd below (Nat.lt_irrefl _)
    · exact member
  · intro member
    exact ⟨(family.contains_iff .root).mpr (Or.inl rfl), family.parent_eq pid member⟩

theorem length_le (family : kernel.Family home unrun children created) :
    unrun.length ≤ children.length :=
  (family.unrun_nodup.subperm family.unrun_subset).length_le

theorem unrun_le (family : kernel.Family home unrun children created) :
    unrun.length ≤ home.maxPid := by
  have counted := family.wellFormed.running_le
  have inRange := family.wellFormed.next_le
  rw [family.running_eq] at counted
  rw [family.maxPid_eq] at inRange
  omega

theorem created_le (family : kernel.Family home unrun children created) :
    created ≤ home.maxPid := by
  have inRange := family.wellFormed.next_le
  rw [family.nextPid_eq, family.maxPid_eq] at inRange
  omega

/-- The wait queue is of no account. -/
theorem of_eq (family : kernel.Family home unrun children created)
    (table : next.table = kernel.table) (loader : next.loader = kernel.loader) :
    next.Family home unrun children created := by
  rcases family with ⟨_, _, _, _, _, _, _, _, _, _, _, _⟩
  constructor <;> simpa only [table, loader]

theorem perm (family : kernel.Family home unrun children created) (same : unrun.Perm others) :
    kernel.Family home others children created where
  wellFormed := family.wellFormed
  root_space := family.root_space
  contains_iff := family.contains_iff
  parent_eq := family.parent_eq
  unrun_nodup := same.nodup_iff.mp family.unrun_nodup
  unrun_subset _ member := family.unrun_subset (same.mem_iff.mpr member)
  unrun_space child member := family.unrun_space child (same.mem_iff.mpr member)
  exited child member apart :=
    family.exited child member fun left => apart (same.mem_iff.mp left)
  running_eq := by rw [family.running_eq, same.length_eq]
  memory := by
    rw [← same.length_eq]
    exact family.memory
  nextPid_eq := family.nextPid_eq
  maxPid_eq := family.maxPid_eq

/-- A child is loaded if there is memory for it, and takes its pages from the free ones. -/
theorem load_eq (family : kernel.Family home unrun children created) {name : String}
    {arguments : List String} {image : Image Main} (pages : image.pages = home.imagePages)
    (admits : home.loader.Admits name arguments image) :
    home.childPages ≤ kernel.loader.freePages ∧
        (∃ space loader, kernel.loader.load name arguments = .ok (⟨image.entry, space⟩, loader) ∧
          space.pageCount = home.childPages ∧
            ∃ free, loader = home.loader.withFree free ∧
              free.length + home.childPages = kernel.loader.freePages) ∨
      kernel.loader.freePages < home.childPages ∧
        kernel.loader.load name arguments = .error .outOfMemory := by
  rcases family.memory with ⟨free, same, _⟩
  have inside : kernel.loader.Admits name arguments image := by
    rw [same]
    exact ⟨admits.executable, admits.installed, admits.brief, admits.small⟩
  have takes : kernel.loader.pagesFor image = home.childPages := by
    rw [same, Loader.pagesFor, pages]
    rfl
  have loads := inside.load_eq
  rw [takes] at loads
  by_cases enough : home.childPages ≤ kernel.loader.freePages
  · rw [if_pos enough] at loads
    refine Or.inl ⟨enough, _, _, loads, ?_, kernel.loader.pool.free.drop home.childPages, ?_, ?_⟩
    · rw [takes, AddressSpace.pageCount, List.length_reverse, List.length_take]
      exact Nat.min_eq_left enough
    · rw [same]
      rfl
    · rw [List.length_drop]
      exact Nat.sub_add_cancel enough
  · rw [if_neg enough] at loads
    exact Or.inr ⟨Nat.lt_of_not_le enough, loads⟩

/-- Children that have run already only leave more memory. -/
theorem childPages_le (family : kernel.Family home unrun children created)
    (enough : home.childPages * (children.length + 1) ≤ home.loader.freePages) :
    home.childPages ≤ kernel.loader.freePages := by
  rcases family.memory with ⟨free, same, counted⟩
  have all : kernel.loader.freePages = free.length := by
    rw [same]
    rfl
  have fewer := Nat.mul_le_mul_left home.childPages family.length_le
  rw [Nat.mul_succ] at enough
  omega

theorem launched (family : kernel.Family home unrun children created)
    (inRange : created + 1 ≤ home.maxPid) {space : AddressSpace} {loader : Loader Main}
    (pages : space.pageCount = home.childPages)
    (memory : ∃ free, loader = home.loader.withFree free ∧
      free.length + home.childPages = kernel.loader.freePages) :
    (kernel.launched (some .root) space loader).Family home (⟨created + 1⟩ :: unrun)
      (⟨created + 1⟩ :: children) (created + 1) := by
  have next : kernel.table.nextPid = created + 1 := family.nextPid_eq
  have below : kernel.table.nextPid ≤ kernel.table.maxPid := by
    rw [next, family.maxPid_eq]
    exact inRange
  have known : ∀ creator, some Pid.root = some creator → kernel.table.contains creator = true := by
    rintro creator ⟨⟩
    exact (family.contains_iff .root).mpr (Or.inl rfl)
  have older : ∀ pid, pid = .root ∨ pid ∈ children → (⟨created + 1⟩ : Pid) ≠ pid :=
    fun pid present same => family.ne_nextPid present same.symm
  exact {
    wellFormed :=
      (family.wellFormed.entered below known).activated ProcessTable.stateOf?_entered_nextPid
    root_space := by
      have first := older .root (Or.inl rfl)
      simp [Kernel.launched, ProcessTable.spaceOf?_activated, ProcessTable.spaceOf?_entered, next,
        first, first.symm, family.root_space]
    contains_iff := by
      intro pid
      simp only [Kernel.launched, ProcessTable.contains_activated, ProcessTable.contains_entered,
        family.contains_iff, next, List.mem_cons]
      exact or_left_comm
    parent_eq := by
      intro child member
      simp only [Kernel.launched, ProcessTable.parentOf?_activated, ProcessTable.parentOf?_entered,
        next]
      rcases List.mem_cons.mp member with rfl | earlier
      · rw [if_pos rfl]
      · rw [if_neg (older child (Or.inr earlier)).symm]
        exact family.parent_eq child earlier
    unrun_nodup := by
      refine List.nodup_cons.mpr ⟨?_, family.unrun_nodup⟩
      intro waits
      exact older _ (Or.inr (family.unrun_subset waits)) rfl
    unrun_subset := List.cons_subset_cons _ family.unrun_subset
    unrun_space := by
      intro child member
      simp only [Kernel.launched, ProcessTable.spaceOf?_activated, ProcessTable.spaceOf?_entered,
        next]
      rcases List.mem_cons.mp member with rfl | earlier
      · refine ⟨space, ?_, pages⟩
        simp [ProcessTable.find?_entered, next]
      · have apart := older child (Or.inr (family.unrun_subset earlier))
        rw [if_neg apart, if_neg apart.symm]
        exact family.unrun_space child earlier
    exited := by
      intro child member ran
      have apart : child ≠ ⟨created + 1⟩ := fun same => ran (same ▸ List.mem_cons_self)
      have earlier := (List.mem_cons.mp member).resolve_left apart
      simp only [Kernel.launched, ProcessTable.stateOf?_activated, ProcessTable.stateOf?_entered,
        next, if_neg apart.symm, if_neg apart]
      exact family.exited child earlier fun waits => ran (List.mem_cons_of_mem _ waits)
    running_eq := by
      change kernel.table.running + 1 = unrun.length + 1 + 1
      rw [family.running_eq]
    memory := by
      rcases memory with ⟨free, rest, left⟩
      rcases family.memory with ⟨before, same, counted⟩
      have all : kernel.loader.freePages = before.length := by
        rw [same]
        rfl
      refine ⟨free, rest, ?_⟩
      rw [List.length_cons, Nat.mul_succ]
      omega
    nextPid_eq := congrArg (· + 1) next
    maxPid_eq := family.maxPid_eq }

theorem departed (family : kernel.Family home (child :: unrun) children created) :
    (kernel.departed child (some 0)).Family home unrun children created := by
  rcases List.nodup_cons.mp family.unrun_nodup with ⟨apart, nodup⟩
  have member : child ∈ children := family.unrun_subset List.mem_cons_self
  have running := family.unrun_running List.mem_cons_self
  exact {
    wellFormed := family.wellFormed.terminated running
    root_space := by
      simp only [Kernel.departed, ProcessTable.spaceOf?_terminated, if_neg (family.ne_root member)]
      exact family.root_space
    contains_iff := by
      intro pid
      simp only [Kernel.departed, ProcessTable.contains_terminated]
      exact family.contains_iff pid
    parent_eq := by
      intro other known
      simp only [Kernel.departed, ProcessTable.parentOf?_terminated]
      exact family.parent_eq other known
    unrun_nodup := nodup
    unrun_subset := fun _ waits => family.unrun_subset (List.mem_cons_of_mem child waits)
    unrun_space := by
      intro other waits
      have different : child ≠ other := fun same => apart (same ▸ waits)
      simp only [Kernel.departed, ProcessTable.spaceOf?_terminated, if_neg different]
      exact family.unrun_space other (List.mem_cons_of_mem child waits)
    exited := by
      intro other known ran
      simp only [Kernel.departed, ProcessTable.stateOf?_terminated]
      by_cases same : child = other
      · subst other
        rw [if_pos rfl, running]
        rfl
      · rw [if_neg same]
        apply family.exited other known
        intro waits
        exact ran ((List.mem_cons.mp waits).resolve_left (Ne.symm same))
    running_eq := by
      change kernel.table.running - 1 = unrun.length + 1
      rw [family.running_eq]
      rfl
    memory := by
      rcases family.unrun_space child List.mem_cons_self with ⟨space, owned, pages⟩
      rcases family.memory with ⟨free, same, counted⟩
      have frames : kernel.table.framesOf child = space.frames := by
        rw [ProcessTable.framesOf, ← ProcessTable.spaceOf?, owned]
        rfl
      refine ⟨space.frames.reverse ++ free, ?_, ?_⟩
      · rw [Kernel.departed, frames, same]
        rfl
      · rw [List.length_cons, Nat.mul_succ] at counted
        rw [AddressSpace.pageCount] at pages
        rw [List.length_append, List.length_reverse]
        omega
    nextPid_eq := family.nextPid_eq
    maxPid_eq := family.maxPid_eq }

theorem collected (family : kernel.Family home unrun children created) (member : child ∈ children)
    (ran : child ∉ unrun) :
    (kernel.collected .root child).Family home unrun (children.filter (· ≠ child)) created := by
  have first := family.ne_root member
  have others : ∀ {other}, other ∈ children.filter (· ≠ child) ↔
      other ∈ children ∧ child ≠ other := by
    intro other
    simp [ne_comm]
  exact {
    wellFormed := family.wellFormed.collected (family.isChild_iff.mpr member)
      (family.exited child member ran)
    root_space := by
      simp only [Kernel.collected, ProcessTable.spaceOf?_collected, if_neg first]
      exact family.root_space
    contains_iff := by
      intro pid
      simp only [Kernel.collected, ProcessTable.contains_collected, family.contains_iff, others]
      constructor
      · rintro ⟨apart, same | known⟩
        · exact Or.inl same
        · exact Or.inr ⟨known, apart⟩
      · rintro (rfl | ⟨known, apart⟩)
        · exact ⟨first, Or.inl rfl⟩
        · exact ⟨apart, Or.inr known⟩
    parent_eq := by
      intro other known
      rcases others.mp known with ⟨known, apart⟩
      simp only [Kernel.collected, ProcessTable.parentOf?_collected, if_neg apart]
      exact family.parent_eq other known
    unrun_nodup := family.unrun_nodup
    unrun_subset := by
      intro other waits
      exact others.mpr ⟨family.unrun_subset waits, fun same => ran (same ▸ waits)⟩
    unrun_space := by
      intro other waits
      have apart : child ≠ other := fun same => ran (same ▸ waits)
      simp only [Kernel.collected, ProcessTable.spaceOf?_collected, if_neg apart]
      exact family.unrun_space other waits
    exited := by
      intro other known apart
      rcases others.mp known with ⟨known, different⟩
      simp only [Kernel.collected, ProcessTable.stateOf?_collected, if_neg different]
      exact family.exited other known apart
    running_eq := family.running_eq
    memory := family.memory
    nextPid_eq := family.nextPid_eq
    maxPid_eq := family.maxPid_eq }

end Family

end Kernel

/-! ### Machines -/

/-- The bytes that printing a text on a line of its own writes. -/
def lineBytes (text : String) : List UInt8 := Utf8.encode (text ++ "\n")

/-- What the first process has done so far. -/
structure Progress where
  /-- The children that it has not collected. -/
  children : List (Launch Main)
  /-- How many children it has created. -/
  created : Nat
  /-- The lines that it has written, the latest in front. -/
  lines : List String

namespace Machine

/-- The first process runs, and those of its modest children that are to run yet are ready. -/
structure Nursery (home : Home) (progress : Progress) (machine : Machine) : Prop where
  family : machine.system.kernel.Family home (machine.ready.map Launch.pid)
    (progress.children.map Launch.pid) progress.created
  ready_subset : machine.ready ⊆ progress.children
  modest : ∀ child ∈ progress.children, (child.entry child.arguments).Modest True (· = 0)
  live : machine.halted = none
  unlimited : home.unlimited → machine.startsLeft = none
  chunks_eq : machine.chunks .root = progress.lines.map lineBytes

namespace Nursery

variable {home : Home} {progress : Progress} {machine next : Machine}

theorem of_resembles (nursery : machine.Nursery home progress)
    (same : machine.Resembles next) : next.Nursery home progress where
  family := by
    rw [same.kernel_eq, same.ready_eq]
    exact nursery.family
  ready_subset := by
    rw [same.ready_eq]
    exact nursery.ready_subset
  modest := nursery.modest
  live := same.halted_eq.trans nursery.live
  unlimited free := same.startsLeft_eq.trans (nursery.unlimited free)
  chunks_eq := same.chunks_eq.trans nursery.chunks_eq

/-- Whichever child runs next, it ends, and the others still have to run. -/
theorem runNext (nursery : machine.Nursery home progress) (patience : Nat)
    (runOther : Machine → Machine) :
    (runNext (engineWith patience runOther) machine).Nursery home progress ∧
      (Machine.runNext (engineWith patience runOther) machine).ready.length =
        machine.ready.length - 1 := by
  by_cases idle : machine.ready = []
  · rw [runNext_of_idle _ idle, idle]
    exact ⟨nursery, rfl⟩
  · rcases runNext_eq (engineWith patience runOther) idle with ⟨launch, others, permuted, runs⟩
    have member : launch ∈ machine.ready := permuted.mem_iff.mpr List.mem_cons_self
    have known := nursery.ready_subset member
    have stranger := nursery.family.ne_root (List.mem_map_of_mem known)
    have running := nursery.family.unrun_running (List.mem_map_of_mem member)
    have busy : machine.system.kernel.table.running ≠ 1 := by
      have positive := List.length_pos_iff.mpr idle
      rw [nursery.family.running_eq, List.length_map]
      omega
    have left := resembles_finished patience runOther { machine with ready := others }
      (nursery.modest launch known) stranger nursery.live (fun _ => busy) nursery.family.wellFormed
      running
    rw [← runs] at left
    have family := (nursery.family.perm (permuted.map Launch.pid)).departed
    have ended : Nursery home progress
        (departed { machine with ready := others } launch.pid 0) := {
      family := family
      ready_subset := fun other waits =>
        nursery.ready_subset (permuted.mem_iff.mpr (List.mem_cons_of_mem launch waits))
      modest := nursery.modest
      live := (if_neg busy).trans nursery.live
      unlimited := nursery.unlimited
      chunks_eq := nursery.chunks_eq }
    refine ⟨ended.of_resembles left, ?_⟩
    rw [left.ready_eq, permuted.length_eq]
    rfl

end Nursery

end Machine

end Lifecycle
