import Lifecycle.Proofs.Nursery

/-!
# Assertions about the first process

What the program of the first process ensures is defined by recursion on the program: each call has
the effects that it has on any machine on which the first process and its modest children are all
that runs. A call that may go in several ways has to be followed by a program that is right for all
of them.

This is sound for every schedule: if a program ensures something and is run as the first process, it
comes to one of the ends that the assertion allows.
-/

namespace Lifecycle

/-! ### Progress -/

namespace Progress

/-- One more line is written. -/
def prints (progress : Progress) (text : String) : Progress :=
  { progress with lines := text :: progress.lines }

/-- The pid of the child that is created next. -/
def nextPid (progress : Progress) : Pid := ⟨progress.created + 1⟩

/-- One more child is created, which has not run yet. -/
def creates (progress : Progress) (entry : Main) (arguments : List String) : Progress :=
  { progress with
    children := ⟨progress.nextPid, entry, arguments⟩ :: progress.children
    created := progress.created + 1 }

/-- A child is collected. -/
def collects (progress : Progress) (pid : Pid) : Progress :=
  { progress with children := progress.children.filter fun child => child.pid ≠ pid }

end Progress

/-- One more child can be created, even if none of the others has run yet. -/
def Home.Affords (home : Home) (progress : Progress) : Prop :=
  home.unlimited ∧ progress.created + 1 ≤ home.maxPid ∧
    home.childPages * (progress.children.length + 1) ≤ home.loader.freePages

/-! ### Assertions -/

/-- How the run of the first process ends. -/
inductive Fate where
  | returned (status : Int32)
  /-- It halted the machine. -/
  | halted
  /-- It asked for a child when no pid was left. -/
  | exhausted

/-- None of the children that are not collected asks to halt the machine. -/
def Progress.Quiet (progress : Progress) : Prop :=
  ∀ child ∈ progress.children, (child.entry child.arguments).Modest False (· = 0)

/--
The program only makes calls whose effects are known and comes to one of the given ends. It prints
whole lines, creates modest children, halts the machine only when it has collected all of them, and
leaves none behind that might halt it.
-/
def Program.Ensures (home : Home) (ends : Fate → Progress → Prop) :
    Program Int32 → Progress → Prop
  | done status, progress => progress.Quiet ∧ ends (.returned status) progress
  | write descriptor bytes next, progress =>
    ∃ text, descriptor = outputDescriptor ∧ bytes = lineBytes text ∧
      ∀ value, Ensures home ends (next value) (progress.prints text)
  | exec name arguments next, progress =>
    ∃ image, home.loader.Admits name arguments image ∧ image.pages = home.imagePages ∧
      (image.entry arguments).Modest True (· = 0) ∧
        Ensures home ends (next (Int32.ofNat (progress.created + 1)))
          (progress.creates image.entry arguments) ∧
          (home.Affords progress ∨
            ends .exhausted progress ∧ Ensures home ends (next (-1)) progress)
  | join number next, progress =>
    ∃ pid, Pid.ofInt32? number = some pid ∧
      if pid ∈ progress.children.map Launch.pid then
        Ensures home ends (next 1 (some 0)) (progress.collects pid)
      else Ensures home ends (next (-1) none) progress
  | halt _, progress => progress.children = [] ∧ ends .halted progress
  | read _ _ _, _ => False
  | exit _, _ => False
  | crash, _ => False

namespace Machine

variable {home : Home} {progress : Progress} {machine next : Machine}

/-- The first process has ended, and those of its modest children that are to run yet are ready. -/
structure Orphans (home : Home) (status : Int32) (progress : Progress) (machine : Machine) :
    Prop where
  wellFormed : machine.system.kernel.table.WellFormed
  root_exited : machine.system.kernel.table.stateOf? .root = some (.exited (.exit status))
  quiet : progress.Quiet
  ready_subset : machine.ready ⊆ progress.children
  ready_nodup : (machine.ready.map Launch.pid).Nodup
  ready_running : ∀ launch ∈ machine.ready,
    machine.system.kernel.table.stateOf? launch.pid = some .running
  running_eq : machine.system.kernel.table.running = machine.ready.length
  maxPid_eq : machine.system.kernel.table.maxPid = home.maxPid
  halted_eq : machine.halted = if machine.ready.length = 0 then some .allExited else none
  chunks_eq : machine.chunks .root = progress.lines.map lineBytes

/-- What the first process leaves behind. -/
inductive Leaves (home : Home) (progress : Progress) (machine : Machine) : Fate → Prop
  | returned {status : Int32} (orphans : machine.Orphans home status progress) :
      Leaves home progress machine (.returned status)
  | halted (stopped : machine.halted = some (.requested .root))
      (alone : machine.system.kernel.Family home [] [] progress.created)
      (chunks_eq : machine.chunks .root = progress.lines.map lineBytes) :
      Leaves home progress machine .halted
  | exhausted (stopped : machine.halted = some .pidSpaceExhausted)
      (maxPid_eq : machine.system.kernel.table.maxPid = home.maxPid)
      (chunks_eq : machine.chunks .root = progress.lines.map lineBytes) :
      Leaves home progress machine .exhausted

theorem Orphans.of_resembles {status : Int32} (orphans : machine.Orphans home status progress)
    (same : machine.Resembles next) : next.Orphans home status progress := by
  rcases orphans with ⟨_, _, _, _, _, _, _, _, _, _⟩
  constructor <;>
    simpa only [same.kernel_eq, same.ready_eq, same.halted_eq, same.chunks_eq]

theorem Leaves.of_resembles {fate : Fate} (leaves : machine.Leaves home progress fate)
    (same : machine.Resembles next) : next.Leaves home progress fate := by
  cases leaves with
  | returned orphans => exact .returned (orphans.of_resembles same)
  | halted stopped alone chunks_eq =>
      refine .halted (same.halted_eq.trans stopped) ?_ (same.chunks_eq.trans chunks_eq)
      rw [same.kernel_eq]
      exact alone
  | exhausted stopped maxPid_eq chunks_eq =>
      refine .exhausted (same.halted_eq.trans stopped) ?_ (same.chunks_eq.trans chunks_eq)
      rw [same.kernel_eq]
      exact maxPid_eq

theorem Leaves.maxPid_eq {fate : Fate} (leaves : machine.Leaves home progress fate) :
    machine.system.kernel.table.maxPid = home.maxPid := by
  cases leaves with
  | returned orphans => exact orphans.maxPid_eq
  | halted _ alone _ => exact alone.maxPid_eq
  | exhausted _ maxPid_eq _ => exact maxPid_eq

/-! ### Calls of the first process -/

/-- Where other processes run, one more of the children runs to its end, if any is left. -/
def Tends (home : Home) (runOther : Machine → Machine) : Prop :=
  ∀ {progress machine}, machine.Nursery home progress →
    (runOther machine).Nursery home progress ∧
      (runOther machine).ready.length = machine.ready.length - 1

section Calls

variable (patience : Nat) {runOther : Machine → Machine}

/-- A call that does not stop the machine is replied to, and its records make no difference. -/
theorem Nursery.serves {call : Syscall.Call} {reply : Syscall.Reply} {later : Progress}
    (nursery : machine.Nursery home progress)
    (performed : (engineWith patience runOther).perform .root call (machine.entering call .root) =
      (some reply, next))
    (left : next.Nursery home later) :
    ∃ after, serve (engineWith patience runOther) .root call machine = (some reply, after) ∧
      after.Nursery home later := by
  rcases resembles_serve patience runOther machine nursery.live performed with ⟨after, same, served⟩
  have going : next.isHalted = false := congrArg Option.isSome left.live
  rw [going] at served
  exact ⟨after, served, left.of_resembles same⟩

theorem Nursery.serves_write (nursery : machine.Nursery home progress) (text : String) :
    ∃ reply after, serve (engineWith patience runOther) .root
        (.write outputDescriptor (lineBytes text)) machine = (some reply, after) ∧
      after.Nursery home (progress.prints text) := by
  refine ⟨_, nursery.serves patience rfl ?_⟩
  have recorded : (machine.entering (.write outputDescriptor (lineBytes text)) .root).chunks .root =
      lineBytes text :: machine.chunks .root := rfl
  exact {
    family := nursery.family
    ready_subset := nursery.ready_subset
    modest := nursery.modest
    live := nursery.live
    unlimited := nursery.unlimited
    chunks_eq := recorded.trans (congrArg _ nursery.chunks_eq) }

/-- While the first process has no child, it may halt the machine. -/
theorem Nursery.serves_halt (nursery : machine.Nursery home progress)
    (childless : progress.children = []) :
    ∃ after, serve (engineWith patience runOther) .root .halt machine = (none, after) ∧
      after.Leaves home progress .halted := by
  have idle : machine.ready = [] := by
    have within := nursery.ready_subset
    rw [childless] at within
    exact List.eq_nil_of_subset_nil within
  have family := nursery.family
  rw [idle, childless] at family
  have last : machine.system.kernel.table.isLastRunning .root = true := by
    simp [ProcessTable.isLastRunning, family.running_eq, family.root_running]
  have halts : (machine.entering .halt .root).system.kernel.halt .root =
      (.ok (), machine.system.kernel,
        [.log (.haltRequested .root), .powerOff (.requested .root)]) := by
    have same : (machine.entering .halt .root).system.kernel = machine.system.kernel := rfl
    rw [same, Kernel.halt, last]
    rfl
  rcases resembles_onKernel patience runOther (machine.entering .halt .root)
    (fun kernel => kernel.halt .root) halts (Kernel.untraced_halt _ .root).silent with
    ⟨next, stops, same⟩
  have performed : (engineWith patience runOther).perform .root .halt
      (machine.entering .halt .root) = (some (.ofHalt (.ok ())), next) := by
    simp only [Engine.perform, Engine.halt, stops]
  rcases resembles_serve patience runOther machine nursery.live performed with ⟨after, left, served⟩
  have stopped : next.halted = some (.requested .root) := by
    have live : (machine.entering .halt .root).halted = none := nursery.live
    rw [same.halted_eq]
    simp [changed, live, haltedBy]
  have off : next.isHalted = true := congrArg Option.isSome stopped
  rw [off] at served
  refine ⟨after, served, Leaves.of_resembles (.halted stopped ?_ ?_) left⟩
  · rw [same.kernel_eq]
    exact family
  · exact same.chunks_eq.trans nursery.chunks_eq

/-- The machine after a child was queued. -/
theorem Nursery.queued (nursery : machine.Nursery home progress) {entry : Main}
    {arguments : List String} (modest : (entry arguments).Modest True (· = 0))
    {kernel : Kernel Main}
    (family : kernel.Family home (progress.nextPid :: machine.ready.map Launch.pid)
      (progress.nextPid :: progress.children.map Launch.pid) (progress.created + 1))
    (same : (machine.withKernel kernel).Resembles next) (left : Option Nat)
    (unlimited : home.unlimited → left = none) :
    Nursery home (progress.creates entry arguments)
      { next with
        ready := next.ready ++ [⟨progress.nextPid, entry, arguments⟩]
        startsLeft := left } := by
  have waiting : next.ready = machine.ready := same.ready_eq
  exact {
    family := by
      have last := List.perm_append_singleton progress.nextPid (machine.ready.map Launch.pid)
      have stored : next.system.kernel = kernel := same.kernel_eq
      rw [waiting, List.map_append, stored]
      exact family.perm last.symm
    ready_subset := by
      rw [waiting]
      intro launch member
      rcases List.mem_append.mp member with earlier | newcomer
      · exact List.mem_cons_of_mem _ (nursery.ready_subset earlier)
      · rw [List.mem_singleton.mp newcomer]
        exact List.mem_cons_self
    modest := by
      intro child member
      rcases List.mem_cons.mp member with rfl | earlier
      · exact modest
      · exact nursery.modest child earlier
    live := same.halted_eq.trans nursery.live
    unlimited := unlimited
    chunks_eq := same.chunks_eq.trans nursery.chunks_eq }

/-- Under an eager schedule, a child may run before its creation returns. -/
theorem Nursery.started (nursery : machine.Nursery home progress) (tends : Tends home runOther) :
    (started runOther machine).Nursery home progress := by
  unfold Machine.started
  split
  · exact (tends nursery).1
  · exact nursery

/-- A child that was created is started, unless there is no start left for it. -/
theorem Nursery.starts (nursery : machine.Nursery home progress) (tends : Tends home runOther)
    {entry : Main} {arguments : List String} (modest : (entry arguments).Modest True (· = 0))
    {kernel : Kernel Main}
    (family : kernel.Family home (progress.nextPid :: machine.ready.map Launch.pid)
      (progress.nextPid :: progress.children.map Launch.pid) (progress.created + 1))
    (same : (machine.withKernel kernel).Resembles next) :
    (∃ begun, (engineWith patience runOther).start ⟨progress.nextPid, entry, arguments⟩ next =
        (none, begun) ∧ begun.Nursery home (progress.creates entry arguments)) ∨
      ∃ cause, (engineWith patience runOther).start ⟨progress.nextPid, entry, arguments⟩ next =
        (some cause, next) ∧ ¬home.unlimited := by
  have live : next.halted = none := same.halted_eq.trans nursery.live
  have quota : home.unlimited → next.startsLeft = none :=
    fun free => same.startsLeft_eq.trans (nursery.unlimited free)
  rcases start_cases patience runOther next ⟨progress.nextPid, entry, arguments⟩ live with
    ⟨left, granted, started⟩ | ⟨limited, refused⟩
  · have queued := nursery.queued modest family same left fun free => granted (quota free)
    exact Or.inl ⟨_, started, queued.started tends⟩
  · exact Or.inr ⟨_, refused, fun free => limited (quota free)⟩

/-- A child is created, unless there is no pid, no memory or no start left for it. -/
theorem Nursery.spawns (nursery : machine.Nursery home progress) (tends : Tends home runOther)
    {name : String} {arguments : List String} {image : Image Main}
    (admits : home.loader.Admits name arguments image) (pages : image.pages = home.imagePages)
    (modest : (image.entry arguments).Modest True (· = 0)) :
    (∃ next, (engineWith patience runOther).spawn (some .root) name arguments machine =
        (.ok progress.nextPid, next) ∧
      next.Nursery home (progress.creates image.entry arguments)) ∨
    ¬home.Affords progress ∧ ∃ cause next,
      (engineWith patience runOther).spawn (some .root) name arguments machine =
          (.error cause, next) ∧
        (next.Nursery home progress ∨ next.Leaves home progress .exhausted) := by
  have family := nursery.family
  have fewer := family.length_le
  rw [List.length_map, List.length_map] at fewer
  rcases Kernel.prepare_cases family.wellFormed (some .root) name arguments with
    ⟨cause, effects, refused, told, refuses⟩ |
      ⟨entry, space, loader, effects, prepared, calm, inRange, _, loads⟩
  · right
    rcases resembles_spawn_of_error patience runOther machine refused with ⟨next, created, same⟩
    rw [told] at same
    cases refuses with
    | exhausted full =>
        refine ⟨?_, _, next, created, Or.inr (.exhausted ?_ ?_ ?_)⟩
        · rintro ⟨_, free, _⟩
          rw [family.nextPid_eq, family.maxPid_eq] at full
          omega
        · rw [same.halted_eq]
          simp [changed, nursery.live, haltedBy, Kernel.refusalSignals]
        · rw [same.kernel_eq]
          exact family.maxPid_eq
        · exact same.chunks_eq.trans nursery.chunks_eq
    | orphan _ named unknown =>
        cases named
        rw [(family.contains_iff .root).mpr (Or.inl rfl)] at unknown
        cases unknown
    | unloadable _ _ failed =>
        rcases family.load_eq pages admits with ⟨_, _, _, loads, _⟩ | ⟨short, _⟩
        · rw [failed] at loads
          cases loads
        · refine ⟨?_, _, next, created, Or.inl (nursery.of_resembles same)⟩
          rintro ⟨_, _, enough⟩
          rw [← List.length_map Launch.pid] at enough
          have room := family.childPages_le enough
          omega
  · rw [family.nextPid_eq, family.maxPid_eq] at inRange
    rcases family.load_eq pages admits with
      ⟨_, _, _, built, counted, memory⟩ | ⟨_, failed⟩
    · have launches := family.launched inRange counted memory
      rw [loads] at built
      cases built
      have passed : space.arguments = arguments := by
        rcases Loader.load_eq_ok loads with ⟨_, _, _, loaded, _⟩
        exact congrArg (fun loaded => loaded.space.arguments) loaded
      rw [family.nextPid_eq, passed] at prepared
      rcases resembles_spawn_of_ok patience runOther machine calm prepared with
        ⟨opened, same, creates⟩
      rcases nursery.starts patience tends modest launches same with
        ⟨begun, started, ready⟩ | ⟨cause, refused, limited⟩
      · left
        rcases creates started with ⟨next, created, after⟩
        exact ⟨next, created, ready.of_resembles after⟩
      · right
        rcases creates refused with ⟨next, created, after⟩
        have restored : (opened.system.kernel.abandon progress.nextPid).1 =
            machine.system.kernel := by
          rw [same.kernel_eq, Progress.nextPid, ← family.nextPid_eq]
          exact Kernel.abandon_launched family.wellFormed loads
        refine ⟨fun affords => limited affords.1, _, next, created, Or.inl ?_⟩
        exact nursery.of_resembles {
          kernel_eq := after.kernel_eq.trans restored
          schedule_eq := after.schedule_eq.trans same.schedule_eq
          ready_eq := after.ready_eq.trans same.ready_eq
          startsLeft_eq := after.startsLeft_eq.trans same.startsLeft_eq
          halted_eq := after.halted_eq.trans same.halted_eq
          chunks_eq := after.chunks_eq.trans same.chunks_eq }
    · rw [loads] at failed
      cases failed

theorem Nursery.serves_exec (nursery : machine.Nursery home progress)
    (tends : Tends home runOther) {name : String} {arguments : List String} {image : Image Main}
    (admits : home.loader.Admits name arguments image) (pages : image.pages = home.imagePages)
    (modest : (image.entry arguments).Modest True (· = 0)) :
    (∃ after, serve (engineWith patience runOther) .root (.exec name arguments) machine =
        (some (.ofValue (Int32.ofNat (progress.created + 1))), after) ∧
      after.Nursery home (progress.creates image.entry arguments)) ∨
    ¬home.Affords progress ∧
      ((∃ after, serve (engineWith patience runOther) .root (.exec name arguments) machine =
          (some .failure, after) ∧ after.Nursery home progress) ∨
        ∃ after, serve (engineWith patience runOther) .root (.exec name arguments) machine =
          (none, after) ∧ after.Leaves home progress .exhausted) := by
  have entered : (machine.entering (.exec name arguments) .root).Nursery home progress :=
    nursery.of_resembles (resembles_entering machine rfl)
  rcases entered.spawns patience tends admits pages modest with
    ⟨next, created, left⟩ | ⟨short, cause, next, refused, left⟩
  · have inRange : progress.created + 1 ≤ pidLimit := left.family.created_le.trans home.capped
    have replied : Syscall.Reply.ofExec (.ok progress.nextPid) =
        .ofValue (Int32.ofNat (progress.created + 1)) := by
      rw [Syscall.Reply.ofExec, Progress.nextPid, Pid.toInt32?_of_le inRange]
      rfl
    refine Or.inl (nursery.serves patience ?_ left)
    simp only [Engine.perform, created, replied]
  · refine Or.inr ⟨short, ?_⟩
    have performed : (engineWith patience runOther).perform .root (.exec name arguments)
        (machine.entering (.exec name arguments) .root) = (some .failure, next) := by
      simp only [Engine.perform, refused]
      rfl
    rcases left with left | leaves
    · exact Or.inl (nursery.serves patience performed left)
    · rcases resembles_serve patience runOther machine nursery.live performed with
        ⟨after, same, served⟩
      have off : next.isHalted = true := by
        cases leaves with
        | exhausted stopped _ _ =>
            rw [isHalted, stopped]
            rfl
      rw [off] at served
      exact Or.inr ⟨after, served, leaves.of_resembles same⟩

/-! ### Waiting -/

theorem Nursery.withWaiters (nursery : machine.Nursery home progress) (waiters : WaitQueue) :
    Nursery home progress
      (machine.withKernel { machine.system.kernel with waiters := waiters }) where
  family := nursery.family.of_eq rfl rfl
  ready_subset := nursery.ready_subset
  modest := nursery.modest
  live := nursery.live
  unlimited := nursery.unlimited
  chunks_eq := nursery.chunks_eq

theorem Nursery.collected {pid : Pid} (nursery : machine.Nursery home progress)
    (child : pid ∈ progress.children.map Launch.pid) (ran : pid ∉ machine.ready.map Launch.pid) :
    (machine.withKernel (machine.system.kernel.collected .root pid)).Nursery home
      (progress.collects pid) where
  family := by
    have family := nursery.family.collected child ran
    rw [List.filter_map] at family
    exact family
  ready_subset := by
    intro launch member
    refine List.mem_filter.mpr ⟨nursery.ready_subset member, ?_⟩
    have apart : launch.pid ≠ pid := fun same => ran (same ▸ List.mem_map_of_mem member)
    simpa using apart
  modest child member := nursery.modest child (List.mem_filter.mp member).1
  live := nursery.live
  unlimited := nursery.unlimited
  chunks_eq := nursery.chunks_eq

/-- A child that has run is collected at the first look. -/
theorem Nursery.await_of_ran {pid : Pid} (nursery : machine.Nursery home progress)
    (child : pid ∈ progress.children.map Launch.pid) (ran : pid ∉ machine.ready.map Launch.pid)
    (looks : Nat) :
    ∃ next, (engineWith patience runOther).await looks .root pid machine =
      (some (.ok (.exit 0)), next) ∧ next.Nursery home (progress.collects pid) := by
  have family := nursery.family
  have exited := family.exited pid child ran
  rcases Kernel.poll_cases family.wellFormed .root pid with
    ⟨_, stranger, _⟩ | ⟨termination, effects, _, ended, calm, polled⟩ | ⟨_, _, unfinished, _⟩
  · exact absurd (family.isChild_iff.mpr child) stranger
  · have zero : termination = .exit 0 := by
      rw [exited] at ended
      cases ended
      rfl
    rcases resembles_onKernel patience runOther machine (fun kernel => kernel.poll .root pid) polled
      (Kernel.untraced_poll _ .root pid).silent with ⟨next, looked, same⟩
    rw [calm] at same
    refine ⟨next, ?_, (nursery.collected child ran).of_resembles same⟩
    rw [Engine.await.eq_def, looked, zero]
  · simp [exited] at unfinished

/-- While a child is to run yet, another one runs between two looks. -/
theorem Nursery.await_of_unrun {pid : Pid} (nursery : machine.Nursery home progress)
    (tends : Tends home runOther) (child : pid ∈ progress.children.map Launch.pid)
    (waits : pid ∈ machine.ready.map Launch.pid) (looks : Nat) :
    ∃ next, (engineWith patience runOther).await (looks + 1) .root pid machine =
        (engineWith patience runOther).await looks .root pid next ∧
      next.Nursery home progress ∧ next.ready.length + 1 = machine.ready.length := by
  have family := nursery.family
  have running := family.unrun_running waits
  rcases Kernel.poll_cases family.wellFormed .root pid with
    ⟨_, stranger, _⟩ | ⟨_, _, _, ended, _, _⟩ | ⟨effects, _, _, calm, polled⟩
  · exact absurd (family.isChild_iff.mpr child) stranger
  · simp [running] at ended
  · rcases resembles_onKernel patience runOther machine (fun kernel => kernel.poll .root pid) polled
      (Kernel.untraced_poll _ .root pid).silent with ⟨opened, looked, same⟩
    rw [calm] at same
    rcases tends ((nursery.withWaiters _).of_resembles same) with ⟨resumed, fewer⟩
    have goesOn : (engineWith patience runOther).suspend .root opened =
        (true, runOther opened) := by
      simp only [engineWith, isHalted, resumed.live]
      rfl
    refine ⟨runOther opened, ?_, resumed, ?_⟩
    · rw [Engine.await.eq_def, looked]
      simp only [goesOn]
    · have some : machine.ready ≠ [] := by
        intro none
        rw [none] at waits
        cases waits
      have positive := List.length_pos_iff.mpr some
      have kept : opened.ready = machine.ready := same.ready_eq
      rw [fewer, kept]
      omega

/-- A child is collected after at most so many looks as there are children that are to run yet. -/
theorem Nursery.awaits {pid : Pid} (tends : Tends home runOther)
    (child : pid ∈ progress.children.map Launch.pid) (looks : Nat) {machine : Machine}
    (nursery : machine.Nursery home progress) (enough : machine.ready.length ≤ looks) :
    ∃ next, (engineWith patience runOther).await looks .root pid machine =
      (some (.ok (.exit 0)), next) ∧ next.Nursery home (progress.collects pid) := by
  induction looks generalizing machine with
  | zero =>
      have idle := List.eq_nil_of_length_eq_zero (Nat.le_zero.mp enough)
      apply nursery.await_of_ran patience child
      simp [idle]
  | succ looks ih =>
      by_cases waits : pid ∈ machine.ready.map Launch.pid
      · rcases nursery.await_of_unrun patience tends child waits looks with
          ⟨next, same, left, fewer⟩
        rw [same]
        exact ih left (by omega)
      · exact nursery.await_of_ran patience child waits (looks + 1)

theorem Nursery.await_of_stranger {pid : Pid} (nursery : machine.Nursery home progress)
    (stranger : pid ∉ progress.children.map Launch.pid) (looks : Nat) :
    ∃ next, (engineWith patience runOther).await looks .root pid machine =
      (some (.error .notAChild), next) ∧ next.Nursery home progress := by
  have family := nursery.family
  rcases Kernel.poll_cases family.wellFormed .root pid with
    ⟨effects, _, calm, polled⟩ | ⟨_, _, child, _⟩ | ⟨_, child, _⟩
  · rcases resembles_onKernel patience runOther machine (fun kernel => kernel.poll .root pid) polled
      (Kernel.untraced_poll _ .root pid).silent with ⟨next, looked, same⟩
    rw [calm] at same
    refine ⟨next, ?_, (nursery.withWaiters _).of_resembles same⟩
    rw [Engine.await.eq_def, looked]
  · exact absurd (family.isChild_iff.mp child) stranger
  · exact absurd (family.isChild_iff.mp child) stranger

/-- What a wait replies depends only on whether the process is a child that is not collected. -/
theorem Nursery.serves_join {pid : Pid} {number : Int32} (nursery : machine.Nursery home progress)
    (tends : Tends home runOther) (patient : home.maxPid ≤ patience)
    (named : Pid.ofInt32? number = some pid) :
    if pid ∈ progress.children.map Launch.pid then
      ∃ after, serve (engineWith patience runOther) .root (.join number) machine =
          (some { value := 1, status := some 0 }, after) ∧
        after.Nursery home (progress.collects pid)
    else
      ∃ after, serve (engineWith patience runOther) .root (.join number) machine =
          (some .failure, after) ∧ after.Nursery home progress := by
  have entered : (machine.entering (.join number) .root).Nursery home progress :=
    nursery.of_resembles (resembles_entering machine rfl)
  split
  · rename_i child
    have fewer := entered.family.unrun_le.trans patient
    rw [List.length_map] at fewer
    rcases entered.awaits patience tends child patience fewer with ⟨next, joined, left⟩
    apply nursery.serves patience _ left
    simp only [Engine.perform, named, Engine.join]
    exact congrArg (fun result => (result.1.map Syscall.Reply.ofJoin, result.2)) joined
  · rename_i stranger
    rcases entered.await_of_stranger patience stranger patience with ⟨next, joined, left⟩
    apply nursery.serves patience _ left
    simp only [Engine.perform, named, Engine.join]
    exact congrArg (fun result => (result.1.map Syscall.Reply.ofJoin, result.2)) joined

/-! ### Runs of the first process -/

/-- When a process ends after the first one has, or is the first one, all that run are ready. -/
theorem orphans_departed (machine : Machine) {pid : Pid} {status ended : Int32}
    (wellFormed : machine.system.kernel.table.WellFormed) (live : machine.halted = none)
    (running : machine.system.kernel.table.stateOf? pid = some .running)
    (root_exited : (machine.departed pid ended).system.kernel.table.stateOf? .root =
      some (.exited (.exit status)))
    (quiet : progress.Quiet) (ready_subset : machine.ready ⊆ progress.children)
    (distinct : (pid :: machine.ready.map Launch.pid).Nodup)
    (ready_running : ∀ launch ∈ machine.ready,
      machine.system.kernel.table.stateOf? launch.pid = some .running)
    (counted : machine.system.kernel.table.running = machine.ready.length + 1)
    (maxPid_eq : machine.system.kernel.table.maxPid = home.maxPid)
    (chunks_eq : machine.chunks .root = progress.lines.map lineBytes) :
    (machine.departed pid ended).Orphans home status progress where
  wellFormed := wellFormed.terminated running
  root_exited := root_exited
  quiet := quiet
  ready_subset := ready_subset
  ready_nodup := (List.nodup_cons.mp distinct).2
  ready_running := by
    intro launch member
    have apart : pid ≠ launch.pid := by
      intro same
      apply (List.nodup_cons.mp distinct).1
      rw [same]
      exact List.mem_map_of_mem member
    exact ProcessTable.stateOf?_terminated.trans
      ((if_neg apart).trans (ready_running launch member))
  running_eq := by
    change machine.system.kernel.table.running - 1 = machine.ready.length
    omega
  maxPid_eq := maxPid_eq
  halted_eq := by
    simp [Machine.departed, withKernel, counted, live]
  chunks_eq := chunks_eq

/-- When the first process ends, the children that are to run yet are left without a parent. -/
theorem Nursery.departed (nursery : machine.Nursery home progress) (quiet : progress.Quiet)
    (status : Int32) :
    (machine.departed .root status).Orphans home status progress := by
  have family := nursery.family
  have stranger : Pid.root ∉ machine.ready.map Launch.pid :=
    fun waits => family.ne_root (family.unrun_subset waits) rfl
  apply orphans_departed machine family.wellFormed nursery.live family.root_running _ quiet
    nursery.ready_subset (List.nodup_cons.mpr ⟨stranger, family.unrun_nodup⟩)
  · intro launch member
    exact family.unrun_running (List.mem_map_of_mem member)
  · rw [family.running_eq, List.length_map]
  · exact family.maxPid_eq
  · exact nursery.chunks_eq
  · exact ProcessTable.stateOf?_terminated.trans (by rw [if_pos rfl, family.root_running]; rfl)

/-- What a program ensures holds when it is run as the first process. -/
theorem Nursery.finishes (tends : Tends home runOther) (patient : home.maxPid ≤ patience)
    {ends : Fate → Progress → Prop} {program : Program Int32}
    (ensures : program.Ensures home ends progress) (nursery : machine.Nursery home progress) :
    ∃ fate last, ends fate last ∧
      (finished (engineWith patience runOther) .root program machine).Leaves home last fate := by
  induction program generalizing progress machine with
  | done status =>
      rcases ensures with ⟨quiet, ended⟩
      refine ⟨.returned status, progress, ended, .returned ?_⟩
      have concluded := conclude_returned (engineWith patience runOther) .root nursery.live status
      rw [finished, follow, concluded]
      exact (nursery.departed quiet status).of_resembles
        (resembles_exit patience runOther nursery.family.wellFormed nursery.family.root_running
          status)
  | exit status => cases ensures
  | crash => cases ensures
  | read descriptor buffer next ih => cases ensures
  | halt next ih =>
      rcases ensures with ⟨childless, ended⟩
      rcases nursery.serves_halt patience childless with ⟨after, served, leaves⟩
      refine ⟨.halted, progress, ended, ?_⟩
      rw [finished, follow, served, conclude_stopped]
      exact leaves
  | write descriptor bytes next ih =>
      rcases ensures with ⟨text, rfl, rfl, goesOn⟩
      rcases nursery.serves_write patience text with ⟨reply, after, served, left⟩
      rw [finished, follow, served]
      exact ih reply.value (goesOn reply.value) left
  | join number next ih =>
      rcases ensures with ⟨pid, named, goesOn⟩
      have serves := nursery.serves_join patience tends patient named
      split at goesOn
      · rename_i child
        rw [if_pos child] at serves
        rcases serves with ⟨after, served, left⟩
        rw [finished, follow, served]
        exact ih 1 (some 0) goesOn left
      · rename_i stranger
        rw [if_neg stranger] at serves
        rcases serves with ⟨after, served, left⟩
        rw [finished, follow, served]
        exact ih (-1) none goesOn left
  | exec name arguments next ih =>
      rcases ensures with ⟨image, admits, pages, modest, goesOn, short⟩
      rcases nursery.serves_exec patience tends admits pages modest with
        ⟨after, served, left⟩ | ⟨unable, ⟨after, served, left⟩ | ⟨after, served, leaves⟩⟩
      · rw [finished, follow, served]
        exact ih _ goesOn left
      · rw [finished, follow, served]
        exact ih (-1) (short.resolve_left unable).2 left
      · refine ⟨.exhausted, progress, (short.resolve_left unable).1, ?_⟩
        rw [finished, follow, served, conclude_stopped]
        exact leaves

end Calls

end Machine

end Lifecycle
