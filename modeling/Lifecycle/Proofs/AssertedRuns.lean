import Lifecycle.Proofs.FirstProcess
import Lifecycle.Proofs.StoppedMachines

/-!
# Runs of a first process that ensures something

A machine that boots a program which ensures something stops, and does so as the assertion allows.
If the first process ends with children that have not run yet, these run to their end without a
parent, and the last one of them stops the machine.
-/

namespace Lifecycle

namespace Machine

variable {home : Home} {progress : Progress} {machine next : Machine}

/-! ### Children without a parent -/

section Orphans

variable {status : Int32}

/-- They run to their end as well, and the last one of them stops the machine. -/
theorem Orphans.runNext (orphans : machine.Orphans home status progress) (patience : Nat)
    (runOther : Machine → Machine) (busy : machine.ready ≠ []) :
    (runNext (engineWith patience runOther) machine).Orphans home status progress ∧
      (Machine.runNext (engineWith patience runOther) machine).ready.length + 1 =
        machine.ready.length := by
  rcases runNext_eq (engineWith patience runOther) busy with ⟨launch, others, permuted, runs⟩
  have count := permuted.length_eq
  rw [List.length_cons] at count
  have member : launch ∈ machine.ready := permuted.mem_iff.mpr List.mem_cons_self
  have running := orphans.ready_running launch member
  have live : machine.halted = none := by
    rw [orphans.halted_eq, if_neg (by omega)]
  have apart : launch.pid ≠ .root := by
    intro same
    rw [same, orphans.root_exited] at running
    cases running
  have distinct := (permuted.map Launch.pid).nodup_iff.mp orphans.ready_nodup
  have left := resembles_finished patience runOther { machine with ready := others }
    (orphans.quiet launch (orphans.ready_subset member)) apart live False.elim orphans.wellFormed
    running
  rw [← runs] at left
  have waits {other : Launch Main} (also : other ∈ others) : other ∈ machine.ready :=
    permuted.mem_iff.mpr (List.mem_cons_of_mem launch also)
  have ended : Orphans home status progress
      (Machine.departed { machine with ready := others } launch.pid 0) := by
    apply orphans_departed { machine with ready := others } orphans.wellFormed live running _
      orphans.quiet (fun other also => orphans.ready_subset (waits also)) distinct
    · exact fun other also => orphans.ready_running other (waits also)
    · exact orphans.running_eq.trans count
    · exact orphans.maxPid_eq
    · exact orphans.chunks_eq
    · exact ProcessTable.stateOf?_terminated.trans ((if_neg apart).trans orphans.root_exited)
  refine ⟨ended.of_resembles left, ?_⟩
  rw [left.ready_eq, count]
  rfl

theorem Orphans.runUntilHalted (patience : Nat) (runOther : Machine → Machine)
    {processes : Nat} (orphans : machine.Orphans home status progress)
    (enough : machine.ready.length ≤ processes) :
    (runUntilHalted (engineWith patience runOther) processes machine).Orphans home status progress ∧
      (Machine.runUntilHalted (engineWith patience runOther) processes machine).ready = [] := by
  induction processes generalizing machine with
  | zero => exact ⟨orphans, List.eq_nil_of_length_eq_zero (Nat.le_zero.mp enough)⟩
  | succ processes ih =>
      by_cases idle : machine.ready = []
      · have off : machine.isHalted = true := by
          rw [isHalted, orphans.halted_eq, idle]
          rfl
        rw [Machine.runUntilHalted, if_pos off]
        exact ⟨orphans, idle⟩
      · have live : machine.isHalted = false := by
          rw [isHalted, orphans.halted_eq, if_neg (by simpa using idle)]
          rfl
        rcases orphans.runNext patience runOther idle with ⟨left, fewer⟩
        rw [Machine.runUntilHalted, live]
        exact ih left (by omega)

end Orphans

/-- Once what the first process left has run to its end, the machine has stopped. -/
theorem Leaves.runUntilHalted {fate : Fate} (leaves : machine.Leaves home progress fate)
    (patience : Nat) (runOther : Machine → Machine) {processes : Nat}
    (enough : home.maxPid + 1 ≤ processes) :
    (runUntilHalted (engineWith patience runOther) processes machine).Leaves home progress fate ∧
      (Machine.runUntilHalted (engineWith patience runOther) processes machine).isHalted =
        true := by
  cases leaves with
  | returned orphans =>
      have counted := orphans.wellFormed.running_le
      have inRange := orphans.wellFormed.next_le
      rw [orphans.running_eq] at counted
      rw [orphans.maxPid_eq] at inRange
      have few : machine.ready.length ≤ processes := by omega
      rcases orphans.runUntilHalted patience runOther few with ⟨ended, idle⟩
      refine ⟨.returned ended, ?_⟩
      rw [isHalted, ended.halted_eq, idle]
      rfl
  | halted stopped alone chunks_eq =>
      have off : machine.isHalted = true := congrArg Option.isSome stopped
      rw [runUntilHalted_of_isHalted _ _ off]
      exact ⟨.halted stopped alone chunks_eq, off⟩
  | exhausted stopped maxPid_eq chunks_eq =>
      have off : machine.isHalted = true := congrArg Option.isSome stopped
      rw [runUntilHalted_of_isHalted _ _ off]
      exact ⟨.exhausted stopped maxPid_eq chunks_eq, off⟩

end Machine

/-! ### Boot -/

/-- What stays the same once the first process is loaded. -/
def Home.ofBoot (config : KernelConfig) (startsLeft : Option Nat) (loader : Loader Main)
    (space : AddressSpace) (imagePages : Nat) : Home where
  loader := loader
  space := space
  imagePages := imagePages
  maxPid := cappedPid config.maxPid
  capped := Nat.min_le_right _ _
  unlimited := startsLeft = none

/-- The first process has done nothing yet. -/
def Progress.start : Progress := ⟨[], 0, []⟩

theorem Kernel.family_boot (config : KernelConfig) (registry : ImageRegistry Main)
    (startsLeft : Option Nat) (loader : Loader Main) (space : AddressSpace) (imagePages : Nat) :
    ((Kernel.boot config registry).launched none space loader).Family
      (.ofBoot config startsLeft loader space imagePages) [] [] 0 where
  wellFormed := by
    have wellFormed := ProcessTable.wellFormed_ofMaxPid config.maxPid
    exact (wellFormed.entered (Nat.zero_le _) (ProcessTable.no_creator _)).activated
      ProcessTable.stateOf?_entered_nextPid
  root_space := rfl
  contains_iff := by
    intro pid
    have empty : (ProcessTable.ofMaxPid config.maxPid).contains pid = false := rfl
    simp only [launched, boot, ProcessTable.contains_activated, ProcessTable.contains_entered,
      empty]
    simp [ProcessTable.ofMaxPid, Pid.root]
  parent_eq := List.forall_mem_nil _
  unrun_nodup := List.nodup_nil
  unrun_subset := List.nil_subset _
  unrun_space := List.forall_mem_nil _
  exited := List.forall_mem_nil _
  running_eq := rfl
  memory := ⟨loader.pool.free, rfl, Nat.add_zero _⟩
  nextPid_eq := rfl
  maxPid_eq := rfl

/-- What is left of the memory after the first process was loaded into it. -/
theorem Kernel.loads_boot {config : KernelConfig} {registry : ImageRegistry Main} {name : String}
    {arguments : List String} {image : Image Main} {space : AddressSpace} {loader : Loader Main}
    (narrow : config.physPages < values32) (installed : registry.find? name = some image)
    (loads : (Kernel.boot config registry).loader.load name arguments =
      .ok (⟨image.entry, space⟩, loader)) :
    loader.registry = registry ∧ loader.stackPages = config.stackPages ∧
      loader.totalPages = config.physPages ∧ space.image = name ∧
        space.pageCount = (image.pages + config.stackPages + argumentPages) % values64 ∧
          loader.freePages + space.pageCount = config.physPages := by
  rcases Loader.load_eq_ok loads with ⟨other, found, taken, loaded, rest⟩
  have same : other = image := Option.some.inj (found.symm.trans installed)
  subst other
  have pages : space.pageCount = (image.pages + config.stackPages + argumentPages) % values64 :=
    FramePool.length_of_take? taken
  have all := congrArg FramePool.freeCount (FramePool.giveBack_of_take? taken)
  have unused : (Kernel.boot config registry).loader.pool.freeCount = config.physPages :=
    Loader.freePages_ofRegistry registry config.stackPages narrow
  have total : loader.pool.total = config.physPages :=
    congrArg FramePool.total (FramePool.giveBack_of_take? taken)
  rw [FramePool.freeCount_giveBack, unused] at all
  refine ⟨?_, ?_, total, ?_, pages, ?_⟩
  · rw [rest]
    rfl
  · rw [rest]
    rfl
  · exact congrArg (fun loaded => loaded.space.image) loaded
  · rw [Nat.add_comm]
    exact all

/-- What is reported of a machine that has stopped. -/
theorem Report.exists_of_halted {machine : Machine} {reason : HaltReason}
    (stopped : machine.halted = some reason) (program : String) (root : Pid) :
    ∃ report, Report.ofMachine? program root machine = some report ∧ report.exit = reason ∧
      report.root = Report.outcome? machine root ∧
        report.pagesInUse = machine.system.kernel.loader.pagesInUse ∧
          report.processes = machine.system.kernel.table.snapshot := by
  simp only [Report.ofMachine?, stopped]
  exact ⟨_, rfl, rfl, rfl, rfl, rfl⟩

/-! ### What is left of a family -/

namespace Kernel.Family

variable {home : Home} {kernel : Kernel Main} {children : List Pid} {created : Nat}

/-- When all children have run, they have given their memory back. -/
theorem pagesInUse_eq (family : kernel.Family home [] children created) :
    kernel.loader.pagesInUse = home.loader.pagesInUse := by
  rcases family.memory with ⟨free, same, counted⟩
  have left : kernel.loader.freePages = home.loader.freePages := by
    rw [← counted, same]
    rfl
  rw [Loader.pagesInUse, left, same]
  rfl

/-- When all children are collected, only the first process is listed. -/
theorem snapshot_eq (family : kernel.Family home [] [] created) :
    kernel.table.snapshot = [⟨.root, none, .running, [], some home.space.image⟩] := by
  have wellFormed := family.wellFormed
  have lists := wellFormed.lists_snapshot
  have root_of_mem {entry : ProcessSnapshot} (member : entry ∈ kernel.table.snapshot) :
      entry.pid = .root := by
    rcases lists.mem_iff.mp member with ⟨record, present, _⟩
    have known : kernel.table.contains entry.pid = true :=
      ProcessTable.contains_iff.mpr ⟨record, present⟩
    exact ((family.contains_iff entry.pid).mp known).resolve_right List.not_mem_nil
  have orphan {entry : ProcessSnapshot} (member : entry ∈ kernel.table.snapshot) :
      entry.parent = none := by
    rw [← lists.parentOf?_eq member, root_of_mem member]
    cases named : kernel.table.parentOf? .root with
    | none => rfl
    | some creator =>
        have below := wellFormed.lt_of_parentOf? named
        exact absurd below (Nat.not_lt_zero _)
  have known : kernel.table.contains .root = true := (family.contains_iff .root).mpr (Or.inl rfl)
  rcases lists.exists_eq_cons wellFormed known with ⟨entry, rest, split, first⟩
  have member : entry ∈ kernel.table.snapshot := split ▸ List.mem_cons_self
  have alone : rest = [] := by
    apply List.eq_nil_iff_forall_not_mem.mpr
    intro other later
    have also : other ∈ kernel.table.snapshot := split ▸ List.mem_cons_of_mem entry later
    have ascending := lists.ascending
    rw [split] at ascending
    have before := (List.pairwise_cons.mp ascending).1 other later
    rw [first, root_of_mem also] at before
    exact Nat.lt_irrefl _ before
  have running : entry.state = .running := by
    have state := lists.stateOf?_eq member
    rw [first, family.root_running] at state
    exact (Option.some.inj state).symm
  have childless : entry.children = [] := by
    apply List.eq_nil_iff_forall_not_mem.mpr
    intro child listed
    rcases (lists.mem_children_iff wellFormed member).mp listed with ⟨other, also, _, named⟩
    rw [orphan also] at named
    cases named
  have shown : entry.image = some home.space.image := by
    rw [lists.image_eq member, first, family.root_space]
    rfl
  have parentless := orphan member
  rw [split, alone]
  cases entry
  simp only at first parentless running childless shown
  rw [first, parentless, running, childless, shown]

end Kernel.Family

namespace Machine

variable {machine : Machine} {ends : Fate → Progress → Prop} {home : Home}

theorem tends_runNext (home : Home) (patience depth : Nat) :
    Tends home (runNext (engine patience depth)) := by
  intro progress machine nursery
  cases depth with
  | zero => exact nursery.runNext patience id
  | succ depth =>
      exact nursery.runNext patience fun machine => runNext (engine patience depth) machine

/-- When the first process is the only one that is ready, it runs as its program ensures. -/
theorem leaves_runNext {patience : Nat} (depth : Nat) (patient : home.maxPid ≤ patience)
    (launch : Launch Main) (first : launch.pid = .root) (waits : machine.ready = [launch])
    (nursery : Nursery home .start { machine with ready := [] })
    (ensures : (launch.entry launch.arguments).Ensures home ends .start) :
    ∃ fate last, ends fate last ∧
      (runNext (engine patience (depth + 1)) machine).Leaves home last fate := by
  have busy : machine.ready ≠ [] := by simp [waits]
  rcases runNext_eq (engine patience (depth + 1)) busy with ⟨other, others, permuted, runs⟩
  rw [waits, List.singleton_perm] at permuted
  cases permuted
  rw [runs, first]
  exact nursery.finishes patience (tends_runNext home patience depth) patient ensures

theorem leaves_runUntilHalted {patience processes : Nat} (depth : Nat)
    (patient : home.maxPid ≤ patience) (launch : Launch Main) (first : launch.pid = .root)
    (waits : machine.ready = [launch])
    (nursery : Nursery home .start { machine with ready := [] })
    (ensures : (launch.entry launch.arguments).Ensures home ends .start)
    (enough : home.maxPid + 1 ≤ processes) :
    ∃ fate last, ends fate last ∧
      (runUntilHalted (engine patience (depth + 1)) (processes + 1) machine).Leaves home last
          fate ∧
        (runUntilHalted (engine patience (depth + 1)) (processes + 1) machine).isHalted = true := by
  have going : machine.isHalted = false := congrArg Option.isSome nursery.live
  rcases leaves_runNext depth patient launch first waits nursery ensures with
    ⟨fate, last, allowed, leaves⟩
  rw [runUntilHalted, going]
  exact ⟨fate, last, allowed, leaves.runUntilHalted _ _ enough⟩

section Run

variable {config : KernelConfig} {registry : ImageRegistry Main} {input : List UInt8}
  {schedule : Schedule} {startsLeft : Option Nat} {name : String} {arguments : List String}
  {image : Image Main} {space : AddressSpace} {loader : Loader Main}

/-- The first process as it is about to run. -/
theorem nursery_boot {opened : Machine} (imagePages : Nat) (left : Option Nat)
    (same : ((switchedOn config registry input schedule startsLeft).withKernel
      ((Kernel.boot config registry).launched none space loader)).Resembles opened)
    (unlimited : startsLeft = none → left = none) :
    Nursery (.ofBoot config startsLeft loader space imagePages) .start
      { opened with
        ready := []
        startsLeft := left } where
  family := by
    rw [same.kernel_eq]
    exact Kernel.family_boot config registry startsLeft loader space imagePages
  ready_subset := List.nil_subset _
  modest := List.forall_mem_nil _
  live := same.halted_eq
  unlimited := unlimited
  chunks_eq := same.chunks_eq

theorem exists_spawn_of_run {machine last : Machine} {root : Pid}
    (ran : machine.run name arguments = (.ok root, last)) :
    ∃ next, (engine machine.bound machine.bound).spawn none name arguments machine =
        (.ok root, next) ∧
      runUntilHalted (engine machine.bound machine.bound) next.bound next = last := by
  unfold run at ran
  rcases created : (engine machine.bound machine.bound).spawn none name arguments machine with
    ⟨result, next⟩
  simp only [created] at ran
  cases result with
  | error cause => cases ran
  | ok first =>
      rcases Prod.mk.inj ran with ⟨same, ends⟩
      cases same
      exact ⟨next, rfl, ends⟩

/-- What the creation of the first process leaves, unless it fails. -/
theorem exists_of_spawn_boot (imagePages : Nat) (installed : registry.find? name = some image)
    (patience : Nat) (runOther : Machine → Machine) {root : Pid} {next : Machine}
    (created : (engineWith patience runOther).spawn none name arguments
      (switchedOn config registry input schedule startsLeft) = (.ok root, next)) :
    root = .root ∧ ∃ space loader queued,
      (Kernel.boot config registry).loader.load name arguments =
          .ok (⟨image.entry, space⟩, loader) ∧
        queued.ready = [⟨.root, image.entry, arguments⟩] ∧
          Nursery (.ofBoot config startsLeft loader space imagePages) .start
            { queued with ready := [] } ∧
            (started runOther queued).Resembles next := by
  have wellFormed : (Kernel.boot config registry).table.WellFormed :=
    ProcessTable.wellFormed_ofMaxPid config.maxPid
  rcases Kernel.prepare_cases wellFormed none name arguments with
    ⟨cause, effects, refused, _⟩ | ⟨entry, space, loader, effects, prepared, calm, _, _, loads⟩
  · rcases resembles_spawn_of_error patience runOther
      (switchedOn config registry input schedule startsLeft) refused with ⟨failed, fails, _⟩
    rw [fails] at created
    cases created
  · rcases Loader.load_eq_ok loads with ⟨other, found, _, loaded, _⟩
    have same : other = image := Option.some.inj (found.symm.trans installed)
    subst other
    have begins : entry = image.entry := congrArg LoadedImage.entry loaded
    have passed : space.arguments = arguments :=
      congrArg (fun loaded => loaded.space.arguments) loaded
    subst entry
    rw [passed] at prepared
    rcases resembles_spawn_of_ok patience runOther
      (switchedOn config registry input schedule startsLeft) calm prepared with
      ⟨opened, first, creates⟩
    have idle : opened.ready = [] := first.ready_eq
    have quota : opened.startsLeft = startsLeft := first.startsLeft_eq
    rcases start_cases patience runOther opened
      ⟨.root, image.entry, arguments⟩ first.halted_eq with
      ⟨left, granted, starts⟩ | ⟨_, refused⟩
    · rw [idle] at starts
      rw [quota] at granted
      rcases creates starts with ⟨last, spawned, after⟩
      rw [spawned] at created
      cases created
      exact ⟨rfl, space, loader, _, loads, rfl, nursery_boot imagePages left first granted, after⟩
    · rcases creates refused with ⟨last, spawned, _⟩
      rw [spawned] at created
      cases created

/-- A machine that boots a program which ensures something comes to one of the ends it allows. -/
theorem leaves_run (imagePages : Nat) (ends : Home → Fate → Progress → Prop)
    (installed : registry.find? name = some image)
    (ensures : ∀ {space loader},
      (Kernel.boot config registry).loader.load name arguments =
          .ok (⟨image.entry, space⟩, loader) →
        (image.entry arguments).Ensures (.ofBoot config startsLeft loader space imagePages)
          (ends (.ofBoot config startsLeft loader space imagePages)) .start)
    {root : Pid} {machine : Machine}
    (boots : (switchedOn config registry input schedule startsLeft).run name arguments =
      (.ok root, machine)) :
    root = .root ∧ ∃ space loader fate last,
      (Kernel.boot config registry).loader.load name arguments =
          .ok (⟨image.entry, space⟩, loader) ∧
        ends (.ofBoot config startsLeft loader space imagePages) fate last ∧
          machine.Leaves (.ofBoot config startsLeft loader space imagePages) last fate ∧
            machine.isHalted = true := by
  rcases exists_spawn_of_run boots with ⟨next, created, runs⟩
  rcases exists_of_spawn_boot imagePages installed _ _ created with
    ⟨first, space, loader, queued, loads, waits, nursery, after⟩
  have patient : (Home.ofBoot config startsLeft loader space imagePages).maxPid ≤
      cappedPid config.maxPid + 2 := Nat.le_add_right _ 2
  have settled : ∃ fate last, ends (.ofBoot config startsLeft loader space imagePages) fate last ∧
      machine.Leaves (.ofBoot config startsLeft loader space imagePages) last fate ∧
        machine.isHalted = true := by
    rw [← runs]
    unfold started at after
    split at after
    · -- The first process has run when its creation returns.
      rcases leaves_runNext _ patient _ rfl waits nursery (ensures loads) with
        ⟨fate, last, allowed, leaves⟩
      have left := leaves.of_resembles after
      refine ⟨fate, last, allowed, left.runUntilHalted _ _ ?_⟩
      rw [bound, left.maxPid_eq]
      omega
    · have kept := nursery.family.maxPid_eq
      have count : next.bound = cappedPid config.maxPid + 1 + 1 := by
        rw [bound, after.kernel_eq, kept]
        rfl
      rw [count]
      exact leaves_runUntilHalted _ patient _ rfl (after.ready_eq.trans waits)
        (nursery.of_resembles (after.withReady [])) (ensures loads) (Nat.le_refl _)
  rcases settled with ⟨fate, last, allowed, leaves, off⟩
  exact ⟨first, space, loader, fate, last, loads, allowed, leaves, off⟩

/-- The first process boots if nothing but a lack of memory could keep it from being loaded. -/
theorem exists_run_of_admits
    (admits : (Kernel.boot config registry).loader.Admits name arguments image)
    (enough : (Kernel.boot config registry).loader.pagesFor image ≤
      (Kernel.boot config registry).loader.freePages) (input : List UInt8) (schedule : Schedule) :
    ∃ machine, (switchedOn config registry input schedule none).run name arguments =
      (.ok .root, machine) := by
  have wellFormed : (Kernel.boot config registry).table.WellFormed :=
    ProcessTable.wellFormed_ofMaxPid config.maxPid
  have loads := admits.load_eq
  rw [if_pos enough] at loads
  rcases Kernel.prepare_of_loads wellFormed (Nat.zero_le _) (ProcessTable.no_creator _) loads with
    ⟨effects, calm, prepared⟩
  rcases resembles_spawn_of_ok (cappedPid config.maxPid + 2)
    (runNext (engine (cappedPid config.maxPid + 2) (cappedPid config.maxPid + 1)))
    (switchedOn config registry input schedule none) calm prepared with ⟨opened, first, creates⟩
  rcases start_cases (cappedPid config.maxPid + 2)
    (runNext (engine (cappedPid config.maxPid + 2) (cappedPid config.maxPid + 1))) opened
    ⟨.root, image.entry, arguments⟩ first.halted_eq with ⟨left, _, starts⟩ | ⟨limited, _⟩
  · rcases creates starts with ⟨next, created, _⟩
    exact ⟨_, run_of_spawn created⟩
  · exact absurd first.startsLeft_eq limited

end Run

end Machine

end Lifecycle
