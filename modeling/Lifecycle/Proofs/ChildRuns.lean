import Lifecycle.Proofs.Outcomes

/-!
# Children that run to their end

A process that creates a child and waits for it at once goes on with the status of the child, on a
machine on which only the outcome of the child makes a difference. This holds whether the child runs
before its creator goes on or while its creator waits.
-/

namespace Lifecycle

/-! ### Hosts -/

/-- A process runs, and nobody waits for a process that is still to come. -/
structure Kernel.Hosts {E : Type} (kernel : Kernel E) (pid : Pid) : Prop where
  wellFormed : kernel.table.WellFormed
  running : kernel.table.stateOf? pid = some .running
  unawaited : ∀ target : Pid, kernel.table.nextPid ≤ target.number →
    kernel.waiters.waiters.find? target = none
  /-- Programs can be told every pid. -/
  capped : kernel.table.maxPid ≤ pidLimit

namespace Kernel.Hosts

variable {E : Type} {kernel : Kernel E} {pid : Pid}

theorem contains (hosts : kernel.Hosts pid) : kernel.table.contains pid = true := by
  rcases ProcessTable.stateOf?_eq_some_iff.mp hosts.running with ⟨record, present, _⟩
  exact ProcessTable.contains_iff.mpr ⟨record, present⟩

theorem lt_nextPid (hosts : kernel.Hosts pid) : pid.number < kernel.table.nextPid := by
  rcases ProcessTable.stateOf?_eq_some_iff.mp hosts.running with ⟨record, present, _⟩
  exact hosts.wellFormed.below_next present

theorem running_pos (hosts : kernel.Hosts pid) : 0 < kernel.table.running := by
  rcases ProcessTable.stateOf?_eq_some_iff.mp hosts.running with ⟨record, present, state⟩
  exact hosts.wellFormed.running_pos present state

theorem advanced (hosts : kernel.Hosts pid) {pids : Nat}
    (inRange : kernel.table.nextPid + pids ≤ kernel.table.maxPid + 1) :
    (kernel.advanced pids).Hosts pid where
  wellFormed := hosts.wellFormed.advanced inRange
  running := hosts.running
  unawaited target later := hosts.unawaited target (Nat.le_of_add_right_le later)
  capped := hosts.capped

/-- A process that has just begun to run, below any parent that is known. -/
theorem of_launched (wellFormed : kernel.table.WellFormed)
    (unawaited : ∀ target : Pid, kernel.table.nextPid ≤ target.number →
      kernel.waiters.waiters.find? target = none)
    (capped : kernel.table.maxPid ≤ pidLimit) {parent : Option Pid}
    (known : ∀ creator, parent = some creator → kernel.table.contains creator = true)
    (space : AddressSpace) (loader : Loader E)
    (inRange : kernel.table.nextPid ≤ kernel.table.maxPid) :
    (kernel.launched parent space loader).Hosts ⟨kernel.table.nextPid⟩ where
  wellFormed := (wellFormed.entered inRange known).activated ProcessTable.stateOf?_entered_nextPid
  running := by
    simp [Kernel.launched, ProcessTable.stateOf?_activated, ProcessTable.stateOf?_entered]
  unawaited target later := unawaited target (Nat.le_of_succ_le later)
  capped := capped

theorem known (hosts : kernel.Hosts pid) :
    ∀ creator, some pid = some creator → kernel.table.contains creator = true := by
  rintro creator ⟨⟩
  exact hosts.contains

theorem launched (hosts : kernel.Hosts pid) (space : AddressSpace) (loader : Loader E)
    (inRange : kernel.table.nextPid ≤ kernel.table.maxPid) :
    (kernel.launched (some pid) space loader).Hosts ⟨kernel.table.nextPid⟩ :=
  of_launched hosts.wellFormed hosts.unawaited hosts.capped hosts.known space loader inRange

theorem awaiting (hosts : kernel.Hosts pid) (caller : Pid) :
    (kernel.awaiting caller pid).Hosts pid where
  wellFormed := hosts.wellFormed
  running := hosts.running
  unawaited target later := by
    have below := hosts.lt_nextPid
    have apart : pid ≠ target := by
      rintro rfl
      have later : kernel.table.nextPid ≤ pid.number := later
      omega
    have unawaited := hosts.unawaited target later
    simp only [Kernel.awaiting, WaitQueue.add]
    split
    · exact unawaited
    · rw [PidMap.find?_insert, if_neg apart]
      exact unawaited
  capped := hosts.capped

theorem isChild_launched (hosts : kernel.Hosts pid) (space : AddressSpace) (loader : Loader E) :
    (kernel.launched (some pid) space loader).table.IsChild pid ⟨kernel.table.nextPid⟩ := by
  constructor
  · change ((kernel.table.entered (some pid)).activated _ space).contains pid = true
    rw [ProcessTable.contains_activated, ProcessTable.contains_entered]
    exact Or.inr hosts.contains
  · change ((kernel.table.entered (some pid)).activated _ space).parentOf? _ = some pid
    rw [ProcessTable.parentOf?_activated, ProcessTable.parentOf?_entered, if_pos rfl]

/-- A child that has run and ended waits for being collected by its creator. -/
theorem collectable (hosts : kernel.Hosts pid) {pids : Nat}
    (inRange : kernel.table.nextPid + pids ≤ kernel.table.maxPid) (space : AddressSpace)
    (loader : Loader E) (status : Int32) :
    let table := (((kernel.launched (some pid) space loader).advanced pids).departed
      ⟨kernel.table.nextPid⟩ (some status)).table
    table.WellFormed ∧ table.IsChild pid ⟨kernel.table.nextPid⟩ ∧
      table.stateOf? ⟨kernel.table.nextPid⟩ = some (.exited (.exit status)) := by
  have newborn := hosts.launched space loader (Nat.le_of_add_right_le inRange)
  have child := hosts.isChild_launched space loader
  have grown : ((kernel.launched (some pid) space loader).advanced pids).Hosts
      ⟨kernel.table.nextPid⟩ := by
    apply newborn.advanced
    change kernel.table.nextPid + 1 + pids ≤ kernel.table.maxPid + 1
    omega
  refine ⟨grown.wellFormed.terminated grown.running, ⟨?_, ?_⟩, ?_⟩
  · rw [departed, ProcessTable.contains_terminated]
    exact child.1
  · rw [departed, ProcessTable.parentOf?_terminated]
    exact child.2
  · rw [departed, ProcessTable.stateOf?_terminated, if_pos rfl, grown.running]
    rfl

end Kernel.Hosts

theorem Pid.toInt_ofNat {number : Nat} (inRange : number ≤ pidLimit) :
    (Int32.ofNat number).toInt = number := by
  apply Int32.toInt_ofNat_of_lt
  simp only [pidLimit] at inRange
  omega

theorem Pid.ofInt32?_ofNat {number : Nat} (inRange : number ≤ pidLimit) :
    Pid.ofInt32? (Int32.ofNat number) = some ⟨number⟩ := by
  have natural : ¬Int32.ofNat number < 0 := by
    rw [Int32.lt_iff_toInt_lt, Pid.toInt_ofNat inRange]
    simp
  rw [Pid.ofInt32?, if_neg natural, Int32.toNatClampNeg, Pid.toInt_ofNat inRange,
    Int.toNat_natCast]

theorem Pid.toInt32?_of_le {number : Nat} (inRange : number ≤ pidLimit) :
    Pid.toInt32? ⟨number⟩ = some (Int32.ofNat number) := if_pos inRange

namespace Kernel

variable {E : Type} {kernel : Kernel E} {pid : Pid} {name : String} {arguments : List String}

theorem Hosts.prepare_of_unloadable (hosts : kernel.Hosts pid)
    (inRange : kernel.table.nextPid ≤ kernel.table.maxPid) {cause : LoadError}
    (failed : kernel.loader.load name arguments = .error cause) :
    ∃ effects, signals effects = [] ∧
      kernel.prepare (some pid) name arguments = (.error (.load cause), kernel, effects) := by
  rcases prepare_cases hosts.wellFormed (some pid) name arguments with
    ⟨reason, effects, refused, told, refuses⟩ | ⟨entry, space, loader, effects, _, _, _, _, built⟩
  · cases refuses with
    | exhausted full => omega
    | orphan _ named unknown =>
        cases named
        rw [hosts.contains] at unknown
        cases unknown
    | unloadable _ _ unloadable =>
        rw [failed] at unloadable
        cases unloadable
        exact ⟨effects, told, refused⟩
  · rw [failed] at built
    cases built

/-- What can be loaded is created, by any parent that is known. -/
theorem prepare_of_loads (wellFormed : kernel.table.WellFormed)
    (inRange : kernel.table.nextPid ≤ kernel.table.maxPid) {parent : Option Pid}
    (known : ∀ creator, parent = some creator → kernel.table.contains creator = true) {entry : E}
    {space : AddressSpace} {loader : Loader E}
    (built : kernel.loader.load name arguments = .ok (⟨entry, space⟩, loader)) :
    ∃ effects, signals effects = [] ∧
      kernel.prepare parent name arguments =
        (.ok ⟨⟨kernel.table.nextPid⟩, entry, arguments⟩, kernel.launched parent space loader,
          effects) := by
  have passed : space.arguments = arguments := by
    rcases Loader.load_eq_ok built with ⟨image, _, _, loaded, _⟩
    exact congrArg (fun loaded => loaded.space.arguments) loaded
  rcases prepare_cases wellFormed parent name arguments with
    ⟨reason, effects, _, _, refuses⟩ | ⟨_, _, _, effects, prepared, told, _, _, loads⟩
  · cases refuses with
    | exhausted full => omega
    | orphan _ named unknown =>
        rw [known _ named] at unknown
        cases unknown
    | unloadable _ _ unloadable =>
        rw [built] at unloadable
        cases unloadable
  · rw [built] at loads
    cases loads
    rw [passed] at prepared
    exact ⟨effects, told, prepared⟩

end Kernel

namespace Machine

/-- A process runs on a machine on which no other one is ready to. -/
structure Hosts (machine : Machine) (pid : Pid) : Prop where
  kernel : machine.system.kernel.Hosts pid
  live : machine.halted = none
  idle : machine.ready = []
  unlimited : machine.startsLeft = none

theorem Hosts.after {machine : Machine} {pid : Pid} (hosts : machine.Hosts pid) {outcome : Outcome}
    (inRange : machine.system.kernel.table.nextPid + outcome.created ≤
      machine.system.kernel.table.maxPid + 1) : (machine.after outcome).Hosts pid :=
  ⟨hosts.kernel.advanced inRange, hosts.live, hosts.idle, hosts.unlimited⟩

theorem Hosts.withLog {machine : Machine} {pid : Pid} (hosts : machine.Hosts pid)
    (log : List Log.Record) : Hosts { machine with log := log } pid :=
  ⟨hosts.kernel, hosts.live, hosts.idle, hosts.unlimited⟩

/-! ### Outcomes of programs -/

/-- Following a program comes to what an outcome says. -/
def Describes (outcome : Outcome) (pid : Pid) (machine : Machine) (result : Ending × Machine) :
    Prop :=
  ∃ log, result =
    if outcome.ends then
      (.stopped, { (machine.after outcome).departed pid outcome.status with log := log })
    else (.returned outcome.status, { machine.after outcome with log := log })

section Follow

variable {engine : Engine Main Machine} {pid : Pid} {machine : Machine} {first later : Outcome}
  {program : Program Int32} {rest : Int32 → Program Int32}
  {result : Ending × Machine}

theorem follow_bind (engine : Engine Main Machine) (pid : Pid) (rest : Int32 → Program Int32)
    (program : Program Int32) (machine : Machine) :
    follow engine pid (Program.bind rest program) machine =
      match follow engine pid program machine with
      | (.returned status, machine) => follow engine pid (rest status) machine
      | (.crashed, machine) => (.crashed, machine)
      | (.stopped, machine) => (.stopped, machine) := by
  induction program generalizing machine with
  | done status => rfl
  | exit status => rfl
  | crash => rfl
  | halt next ih =>
      simp only [Program.bind, follow]
      split
      · rfl
      · rw [ih]
  | exec name arguments next ih =>
      simp only [Program.bind, follow]
      split
      · rfl
      · rw [ih]
  | join target next ih =>
      simp only [Program.bind, follow]
      split
      · rfl
      · rw [ih]
  | read descriptor buffer next ih =>
      simp only [Program.bind, follow]
      split
      · rfl
      · rw [ih]
  | write descriptor bytes next ih =>
      simp only [Program.bind, follow]
      split
      · rfl
      · rw [ih]

theorem follow_exec_of_serve {name : String} {arguments : List String}
    {next : Int32 → Program Int32} {reply : Syscall.Reply} {left : Machine}
    (served : serve engine pid (.exec name arguments) machine = (some reply, left)) :
    follow engine pid (.exec name arguments next) machine =
      follow engine pid (next reply.value) left := by
  rw [follow, served]

theorem follow_join_of_serve {target : Int32} {next : Int32 → Option Int32 → Program Int32}
    {reply : Syscall.Reply} {left : Machine}
    (served : serve engine pid (.join target) machine = (some reply, left)) :
    follow engine pid (.join target next) machine =
      follow engine pid (next reply.value reply.status) left := by
  rw [follow, served]

theorem Describes.of_after (log : List Log.Record) (goesOn : first.ends = false)
    (describes : Describes later pid { machine.after first with log := log } result) :
    Describes (first.followedBy later) pid machine result := by
  rcases describes with ⟨last, comes⟩
  refine ⟨last, ?_⟩
  rw [comes, ← after_followedBy machine goesOn later]
  simp only [Outcome.followedBy_of_goesOn goesOn]
  rfl

theorem Describes.bind (begins : Describes first pid machine (follow engine pid program machine))
    (goesOn : first.ends = false → ∀ log,
      Describes later pid { machine.after first with log := log }
        (follow engine pid (rest first.status) { machine.after first with log := log })) :
    Describes (first.followedBy later) pid machine
      (follow engine pid (Program.bind rest program) machine) := by
  cases ends : first.ends with
  | true =>
      rcases begins with ⟨log, comes⟩
      rw [if_pos ends] at comes
      refine ⟨log, ?_⟩
      rw [follow_bind, comes, Outcome.followedBy_of_ends ends, if_pos ends]
  | false =>
      have continued := goesOn ends
      rcases begins with ⟨log, comes⟩
      rw [if_neg (by simp [ends])] at comes
      rw [follow_bind, comes]
      exact .of_after log ends (continued log)

/-- The only process that is ready runs next, whatever the schedule. -/
theorem runNext_queued (engine : Engine Main Machine) (idle : machine.ready = [])
    (launch : Launch Main) :
    runNext engine (machine.queued launch) =
      conclude engine launch.pid
        (follow engine launch.pid (launch.entry launch.arguments) machine).1
        (follow engine launch.pid (launch.entry launch.arguments) machine).2 := by
  have taken : (machine.queued launch).takeNext? = some (launch, machine) := by
    cases machine with
    | mk system schedule ready startsLeft halted log =>
        simp only at idle
        subst idle
        cases schedule <;> rfl
  rw [runNext, taken]

theorem conclude_stopped (engine : Engine Main Machine) (pid : Pid) (machine : Machine) :
    conclude engine pid .stopped machine = machine := by
  unfold conclude
  split <;> rfl

theorem conclude_returned (engine : Engine Main Machine) (pid : Pid) (live : machine.halted = none)
    (status : Int32) :
    conclude engine pid (.returned status) machine = engine.exit pid (some status) machine := by
  rw [conclude, isHalted, live]
  rfl

end Follow

/-! ### Children -/

section Child

variable {machine : Machine} {pid target : Pid} {name : String} {arguments : List String}
  {entry : Main} {space : AddressSpace} {loader : Loader Main} {outcome : Outcome}

theorem after_counted (machine : Machine) (outcome : Outcome) (number : Syscall.Number) :
    (machine.counted number).after outcome = (machine.after outcome).counted number := by
  have permuted : (number :: outcome.calls).Perm (outcome.calls ++ [number]) :=
    (List.perm_append_singleton number outcome.calls).symm
  have same := machine.system.stats.recordAll_eq_of_perm permuted
  simp only [Syscall.Stats.recordAll, List.foldl_cons, List.foldl_append, List.foldl_nil] at same
  simp only [after, counted, Syscall.Stats.recordAll, same]

theorem departed_after_awaiting (machine : Machine) (pid : Pid)
    (unawaited : machine.system.kernel.waiters.waiters.find? target = none) (outcome : Outcome)
    (status : Int32) :
    ((machine.awaiting pid target).after outcome).departed target status =
      (machine.after outcome).departed target status := by
  have same : ((machine.system.kernel.advanced outcome.created).awaiting pid target).departed
      target (some status) =
        (machine.system.kernel.advanced outcome.created).departed target (some status) :=
    Kernel.departed_awaiting (some status) unawaited
  change ({ Machine.withKernel _ (((machine.system.kernel.advanced outcome.created).awaiting pid
    target).departed target (some status)) with halted := _ } : Machine) = _
  rw [same]
  rfl

/-- The machine on which a child of `pid` has just begun to run. -/
def bearing (machine : Machine) (pid : Pid) (space : AddressSpace) (loader : Loader Main) :
    Machine :=
  machine.withKernel (machine.system.kernel.launched (some pid) space loader)

/-- As long as a process runs, the end of its child does not stop the machine. -/
theorem Hosts.halted_departed (hosts : machine.Hosts pid) :
    (if machine.system.kernel.table.running + 1 = 1 then some (machine.halted.getD .allExited)
      else machine.halted) = machine.halted := by
  have busy := hosts.kernel.running_pos
  exact if_neg (by omega)

/-- Whatever lets other processes run, it lets a process that is ready run to its end. -/
def RunsOut (runOther : Machine → Machine) (launch : Launch Main) (outcome : Outcome)
    (machine : Machine) : Prop :=
  ∃ log, runOther (machine.queued launch) =
    { (machine.after outcome).departed launch.pid outcome.status with log := log }

section Collection

variable (hosts : machine.Hosts pid)
  (built : machine.system.kernel.loader.load name arguments = .ok (⟨entry, space⟩, loader))

include hosts built

/-- A child that has run and was collected counts as what it did. -/
theorem collected_child (outcome : Outcome) :
    (((((machine.counted .exec).bearing pid space loader).after outcome).departed machine.nextPid
        outcome.status).counted .join).collected pid machine.nextPid =
      machine.after outcome.collects := by
  have kernel := Kernel.collected_departed hosts.kernel.wellFormed hosts.kernel.contains
    (hosts.kernel.unawaited machine.nextPid (Nat.le_refl _)) built (some outcome.status)
    outcome.created
  have counters := after_counted (machine.counted .exec) outcome .join
  change { (((machine.counted .exec).after outcome).counted .join).withKernel
    ((((machine.system.kernel.launched (some pid) space loader).advanced outcome.created).departed
      machine.nextPid (some outcome.status)).collected pid machine.nextPid) with
    halted := if machine.system.kernel.table.running + 1 = 1 then
      some (machine.halted.getD .allExited) else machine.halted } = _
  rw [kernel, hosts.halted_departed, ← counters]
  rfl

/-- It makes no difference that its parent waited meanwhile. -/
theorem collected_awaited_child (outcome : Outcome) :
    ((((((machine.counted .exec).bearing pid space loader).counted .join).awaiting pid
        machine.nextPid).after outcome).departed machine.nextPid outcome.status).collected pid
          machine.nextPid = machine.after outcome.collects := by
  have same := departed_after_awaiting
    (((machine.counted .exec).bearing pid space loader).counted .join) pid
    (hosts.kernel.unawaited machine.nextPid (Nat.le_refl _)) outcome outcome.status
  rw [same, after_counted]
  exact collected_child hosts built outcome

variable (patience : Nat) (runOther : Machine → Machine)
  (inRange : machine.system.kernel.table.nextPid + outcome.created ≤
    machine.system.kernel.table.maxPid)
  (ran : ∀ base : Machine, base.Hosts machine.nextPid →
    base.system.kernel.table = (machine.system.kernel.launched (some pid) space loader).table →
      base.system.kernel.loader = loader →
        base.RunsOut runOther ⟨machine.nextPid, entry, arguments⟩ outcome)

include inRange ran

/-- A child is created and collected, and between the two calls it has run to its end. -/
theorem exists_serve_exec_join :
    ∃ between log,
      serve (engineWith (patience + 1) runOther) pid (.exec name arguments) machine =
          (some (.ofExec (.ok machine.nextPid)), between) ∧
        serve (engineWith (patience + 1) runOther) pid
            (.join (Int32.ofNat machine.system.kernel.table.nextPid)) between =
          (some (.ofJoin (.ok (.exit outcome.status))),
            { machine.after outcome.collects with log := log }) := by
  have room : machine.system.kernel.table.nextPid ≤ machine.system.kernel.table.maxPid :=
    Nat.le_of_add_right_le inRange
  have named := Pid.ofInt32?_ofNat (Nat.le_trans room hosts.kernel.capped)
  have newborn := hosts.kernel.launched space loader room
  have alive := hosts.halted_departed.trans hosts.live
  rcases hosts.kernel.collectable inRange space loader outcome.status with ⟨sound, heir, ended⟩
  rcases Kernel.prepare_of_loads hosts.kernel.wellFormed room hosts.kernel.known built with
    ⟨effects, calm, prepared⟩
  rcases serve_exec_of_ok (patience + 1) runOther machine hosts.live hosts.unlimited calm prepared
    with ⟨log, creates⟩
  by_cases eager : machine.schedule = .eager
  -- The child has run and ended when its creator goes on.
  · rcases ran { (machine.counted .exec).bearing pid space loader with log := log }
      ⟨newborn, hosts.live, hosts.idle, hosts.unlimited⟩ rfl rfl with ⟨middle, ran⟩
    rcases creates _ ((if_pos eager).trans ran) alive with ⟨later, created⟩
    rcases serve_join_of_exited (patience + 1) runOther
      { (((machine.counted .exec).bearing pid space loader).after outcome).departed
        machine.nextPid outcome.status with log := later }
      named alive sound heir ended with ⟨last, joined⟩
    have left := congrArg (fun left : Machine => (some (Syscall.Reply.ofJoin
      (.ok (.exit outcome.status))), { left with log := last })) (collected_child hosts built outcome)
    exact ⟨_, last, created, joined.trans left⟩
  -- The child runs while its creator waits.
  · rcases creates _ (if_neg eager) hosts.live with ⟨later, created⟩
    rcases serve_join_of_running patience runOther
      { ((machine.counted .exec).bearing pid space loader).queued
        ⟨machine.nextPid, entry, arguments⟩ with log := later }
      (.exit outcome.status) named hosts.live newborn.wellFormed
      (hosts.kernel.isChild_launched space loader) newborn.running with ⟨middle, joins⟩
    rcases ran { (((machine.counted .exec).bearing pid space loader).counted .join).awaiting pid
        machine.nextPid with log := middle }
      ⟨newborn.awaiting pid, hosts.live, hosts.idle, hosts.unlimited⟩ rfl rfl with ⟨inner, ran⟩
    rcases joins _ ran alive sound heir ended with ⟨last, joined⟩
    have left := congrArg (fun left : Machine => (some (Syscall.Reply.ofJoin
      (.ok (.exit outcome.status))), { left with log := last }))
      (collected_awaited_child hosts built outcome)
    exact ⟨_, last, created, joined.trans left⟩

/-- A process that creates a child and waits for it goes on with the status of the child. -/
theorem follow_exec_join {next : Int32 → Program Int32}
    {rest : Int32 → Option Int32 → Program Int32}
    (waits : next (Int32.ofNat machine.system.kernel.table.nextPid) =
      .join (Int32.ofNat machine.system.kernel.table.nextPid) rest) :
    ∃ log, follow (engineWith (patience + 1) runOther) pid (.exec name arguments next) machine =
      follow (engineWith (patience + 1) runOther) pid (rest 1 (some outcome.status))
        { machine.after outcome.collects with log := log } := by
  have room : machine.system.kernel.table.nextPid ≤ machine.system.kernel.table.maxPid :=
    Nat.le_of_add_right_le inRange
  have told : (Syscall.Reply.ofExec (.ok machine.nextPid)).value =
      Int32.ofNat machine.system.kernel.table.nextPid := by
    rw [Syscall.Reply.ofExec, Pid.toInt32?_of_le (Nat.le_trans room hosts.kernel.capped)]
    rfl
  rcases exists_serve_exec_join hosts built patience runOther inRange ran with
    ⟨between, log, created, joined⟩
  refine ⟨log, ?_⟩
  rw [follow_exec_of_serve created, told, waits]
  exact follow_join_of_serve joined

end Collection

/-- A process whose program does what an outcome says runs to its end accordingly. -/
theorem runsOut_of_describes (patience : Nat) (runOther : Machine → Machine)
    (hosts : machine.Hosts pid)
    (inRange : machine.system.kernel.table.nextPid + outcome.created ≤
      machine.system.kernel.table.maxPid + 1)
    (describes : Describes outcome pid machine
      (follow (engineWith patience runOther) pid (entry arguments) machine)) :
    machine.RunsOut (runNext (engineWith patience runOther)) ⟨pid, entry, arguments⟩ outcome := by
  rcases describes with ⟨log, comes⟩
  have going := (hosts.after inRange).withLog log
  cases ends : outcome.ends with
  | true =>
      refine ⟨log, ?_⟩
      rw [if_pos ends] at comes
      rw [runNext_queued _ hosts.idle, comes, conclude_stopped]
  | false =>
      rw [if_neg (by simp [ends])] at comes
      rcases exit_eq patience runOther { machine.after outcome with log := log }
        going.kernel.wellFormed going.kernel.running outcome.status with ⟨later, exited⟩
      refine ⟨later, ?_⟩
      rw [runNext_queued _ hosts.idle, comes]
      exact (conclude_returned _ pid going.live outcome.status).trans exited

end Child

end Machine

end Lifecycle
