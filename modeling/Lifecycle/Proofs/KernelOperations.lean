import Lifecycle.Kernel
import Lifecycle.Proofs.TableRuns

/-!
# Operations of the kernel

Every way in which an operation of the kernel goes, with the kernel it leaves and what it tells the
engine, for a kernel whose table is well formed.

Withdrawing a process right after it was entered, or right after it began to run, gives back the
table from before. So a creation that fails before its process could do anything leaves no trace.
-/

namespace Lifecycle

/-! ### Signals -/

/-- The effect is more than a record for the log. -/
def Effect.isSignal : Effect → Bool
  | .log _ => false
  | .wake _ => true
  | .powerOff _ => true

/-- What effects tell the engine. -/
def signals (effects : List Effect) : List Effect := effects.filter Effect.isSignal

@[simp]
theorem signals_nil : signals [] = [] := rfl

@[simp]
theorem signals_log (record : Log.Record) (effects : List Effect) :
    signals (.log record :: effects) = signals effects := rfl

@[simp]
theorem signals_wake (pid : Pid) (effects : List Effect) :
    signals (.wake pid :: effects) = .wake pid :: signals effects := rfl

@[simp]
theorem signals_powerOff (reason : HaltReason) (effects : List Effect) :
    signals (.powerOff reason :: effects) = .powerOff reason :: signals effects := rfl

@[simp]
theorem signals_append (earlier later : List Effect) :
    signals (earlier ++ later) = signals earlier ++ signals later :=
  List.filter_append earlier later

@[simp]
theorem signals_map_wake (pids : List Pid) : signals (pids.map .wake) = pids.map .wake := by
  apply List.filter_eq_self.mpr
  intro effect member
  rcases List.mem_map.mp member with ⟨pid, _, rfl⟩
  rfl

theorem count_signals {effect : Effect} {effects : List Effect}
    (told : effect.isSignal = true) : (signals effects).count effect = effects.count effect :=
  List.count_filter told

/-! ### Effects outside the trace -/

/-- The effect is not a record of the level of traces, which is that of system calls. -/
def Effect.Untraced : Effect → Prop
  | .log record => record.level ≠ .trace
  | .wake _ => True
  | .powerOff _ => True

/-- None of the effects is. -/
def Untraced (effects : List Effect) : Prop := ∀ effect ∈ effects, effect.Untraced

@[simp]
theorem untraced_nil : Untraced [] := List.forall_mem_nil _

@[simp]
theorem untraced_cons {effect : Effect} {effects : List Effect} :
    Untraced (effect :: effects) ↔ effect.Untraced ∧ Untraced effects := List.forall_mem_cons

@[simp]
theorem untraced_append {earlier later : List Effect} :
    Untraced (earlier ++ later) ↔ Untraced earlier ∧ Untraced later := List.forall_mem_append

@[simp]
theorem untraced_map_wake (pids : List Pid) : Untraced (pids.map .wake) := by
  intro effect member
  rcases List.mem_map.mp member with ⟨pid, _, rfl⟩
  trivial

/-! ### Undoing a creation in the table -/

namespace ProcessRecord

variable {record : ProcessRecord} {child : Pid}

theorem disown_of_not_mem (absent : record.children.contains child = false) :
    record.disown child = record := by
  have unentered : record.children.find? child = none := by
    simpa [PidMap.contains] using absent
  simp [disown, PidMap.erase_of_find?_eq_none unentered]

theorem disown_adopt (absent : record.children.contains child = false) :
    (record.adopt child).disown child = record := by
  have unchanged := disown_of_not_mem absent
  simp only [disown] at unchanged
  simp [adopt, disown, PidMap.erase_insert, unchanged]

end ProcessRecord

namespace ProcessTable

variable {table : ProcessTable} {pid : Pid} {parent : Option Pid}

theorem ext_find? {left right : ProcessTable}
    (records : ∀ pid, left.find? pid = right.find? pid)
    (nextPid : left.nextPid = right.nextPid) (running : left.running = right.running)
    (maxPid : left.maxPid = right.maxPid) : left = right := by
  have same : left.records = right.records := PidMap.ext_find? records
  cases left
  cases right
  simp_all

/-- Withdrawing the newcomer gives back the table without it, pid counter included. -/
theorem WellFormed.withdraw_entered (wellFormed : table.WellFormed) (parent : Option Pid) :
    (table.entered parent).withdraw ⟨table.nextPid⟩ = (none, table) := by
  have fresh := wellFormed.find?_nextPid
  have newcomer : (table.entered parent).find? ⟨table.nextPid⟩ =
      some (.newborn ⟨table.nextPid⟩ parent) := by
    simp [find?_entered]
  apply Prod.ext
  · rw [fst_withdraw, newcomer]
    rfl
  · apply ext_find?
    · intro other
      rw [find?_withdraw, parentOf?_of_find?_eq_some newcomer, find?_entered]
      by_cases same : other = ⟨table.nextPid⟩
      · subst other
        simp [fresh]
      -- Of the other records only that of the parent changed, and it changes back.
      · by_cases creator : parent = some other
        · cases present : table.find? other with
          | none => simp [Ne.symm same, same, creator, ProcessRecord.newborn]
          | some record =>
              have childless : record.children.contains ⟨table.nextPid⟩ = false := by
                rw [← Bool.not_eq_true, wellFormed.child_iff present]
                simp [fresh]
              simp [Ne.symm same, same, creator, ProcessRecord.newborn,
                ProcessRecord.disown_adopt childless]
        · simp [Ne.symm same, same, creator, ProcessRecord.newborn]
    · rw [nextPid_withdraw newcomer]
      exact if_pos rfl
    · rw [running_withdraw newcomer]
      rfl
    · exact maxPid_withdraw

/-- It makes no difference to the table whether a process began to run before it is withdrawn. -/
theorem withdraw_activated {space : AddressSpace} (embryo : table.stateOf? pid = some .embryo) :
    (table.activated pid space).withdraw pid = (some space, (table.withdraw pid).2) := by
  rcases stateOf?_eq_some_iff.mp embryo with ⟨record, present, state⟩
  have running : (table.activated pid space).find? pid =
      some { record with state := .running, space := some space } := by
    simp [find?_activated, present]
  apply Prod.ext
  · rw [fst_withdraw, running]
    rfl
  · apply ext_find?
    · intro other
      rw [find?_withdraw, find?_withdraw, parentOf?_activated, find?_activated]
      by_cases same : pid = other <;> simp [same]
    · rw [nextPid_withdraw running, nextPid_withdraw present]
      rfl
    · rw [running_withdraw running, running_withdraw present]
      simp [state, activated]
    · rw [maxPid_withdraw, maxPid_withdraw]
      rfl

theorem stateOf?_entered_nextPid :
    (table.entered parent).stateOf? ⟨table.nextPid⟩ = some .embryo := by
  simp [stateOf?, find?_entered, ProcessRecord.newborn]

theorem WellFormed.withdraw_activated_entered (wellFormed : table.WellFormed)
    (parent : Option Pid) (space : AddressSpace) :
    ((table.entered parent).activated ⟨table.nextPid⟩ space).withdraw ⟨table.nextPid⟩ =
      (some space, table) := by
  rw [withdraw_activated stateOf?_entered_nextPid, wellFormed.withdraw_entered]

/-- A process without a parent needs no record of one. -/
theorem no_creator (table : ProcessTable) :
    ∀ creator, (none : Option Pid) = some creator → table.contains creator = true := by
  intro creator named
  cases named

end ProcessTable

/-! ### Loading -/

namespace ImageRegistry

variable {E : Type} {name : String}

theorem find?_foldl_install (registry : ImageRegistry E) {images : List (Image E)}
    (apart : ∀ image ∈ images, image.name ≠ name) :
    (images.foldl install registry).find? name = registry.find? name := by
  induction images generalizing registry with
  | nil => rfl
  | cons image images ih =>
      have others : ∀ other ∈ images, other.name ≠ name := by
        intro other member
        exact apart other (List.mem_cons_of_mem image member)
      rw [List.foldl_cons, ih (registry.install image) others, find?_install,
        if_neg (apart image List.mem_cons_self)]

end ImageRegistry

/-- The frames of a space, if there is one. -/
def framesOf (space : Option AddressSpace) : List Frame :=
  (space.map AddressSpace.frames).getD []

/-- The frames that a process owns. -/
def ProcessTable.framesOf (table : ProcessTable) (pid : Pid) : List Frame :=
  Lifecycle.framesOf ((table.find? pid).bind ProcessRecord.space)

namespace Loader

variable {E : Type} {loader next : Loader E} {name : String} {arguments : List String}
  {image : Image E} {loaded : LoadedImage E}

/-- A sum of pages that 64 bits can hold is what a process gets. -/
theorem pagesFor_of_lt (fits : image.pages + loader.stackPages + argumentPages < values64) :
    loader.pagesFor image = image.pages + loader.stackPages + argumentPages :=
  Nat.mod_eq_of_lt fits

/-- The loader after frames came back. -/
def regained (loader : Loader E) (frames : List Frame) : Loader E :=
  { loader with pool := loader.pool.giveBack frames }

theorem load_eq_ok (built : loader.load name arguments = .ok (loaded, next)) :
    ∃ image, loader.registry.find? name = some image ∧
      loader.pool.take? (loader.pagesFor image) = some (loaded.space.frames, next.pool) ∧
        loaded = ⟨image.entry, ⟨name, loaded.space.frames, arguments⟩⟩ ∧
          next = { loader with pool := next.pool } := by
  unfold load at built
  split at built
  · cases built
  · split at built
    · cases built
    · rename_i image installed
      split at built
      · cases built
      · split at built
        · cases built
        · split at built
          · cases built
          · rename_i frames pool taken
            cases built
            exact ⟨image, installed, taken, rfl, rfl⟩

/-- Tearing a space down at once gives back the loader, with its free frames in their order. -/
theorem unload_of_load (built : loader.load name arguments = .ok (loaded, next)) :
    next.unload loaded.space = loader := by
  rcases load_eq_ok built with ⟨image, _, taken, _, rest⟩
  rw [unload, FramePool.giveBack_of_take? taken, rest]

/-- The loader with other free frames. -/
def withFree (loader : Loader E) (free : List Frame) : Loader E :=
  { loader with pool := { loader.pool with free := free } }

/-- Nothing but a lack of memory can keep the image `name` from being loaded. -/
structure Admits (loader : Loader E) (name : String) (arguments : List String)
    (image : Image E) : Prop where
  executable : isExecutableName name = true
  installed : loader.registry.find? name = some image
  brief : ∀ argument ∈ arguments, argument.utf8ByteSize ≤ maxTextBytes
  small : argumentBytes arguments ≤ argumentPages * pageSize

/-- What is built from an image. -/
def built (loader : Loader E) (name : String) (arguments : List String) (image : Image E) :
    LoadedImage E :=
  ⟨image.entry, ⟨name, (loader.pool.free.take (loader.pagesFor image)).reverse, arguments⟩⟩

theorem Admits.load_eq (admits : loader.Admits name arguments image) :
    loader.load name arguments =
      if loader.pagesFor image ≤ loader.freePages then
        .ok (loader.built name arguments image,
          loader.withFree (loader.pool.free.drop (loader.pagesFor image)))
      else .error .outOfMemory := by
  have taken : loader.pool.take? (loader.pagesFor image) =
      if loader.pagesFor image ≤ loader.freePages then
        some ((loader.pool.free.take (loader.pagesFor image)).reverse,
          { loader.pool with free := loader.pool.free.drop (loader.pagesFor image) })
      else none := rfl
  have brief : (arguments.any fun argument => decide (maxTextBytes < argument.utf8ByteSize)) =
      false := by
    simpa using admits.brief
  simp only [load, admits.executable, admits.installed, brief, taken,
    if_neg (Nat.not_lt_of_le admits.small), Bool.not_true, Bool.false_eq_true, if_false]
  by_cases enough : loader.pagesFor image ≤ loader.freePages
  · simp only [if_pos enough]
    rfl
  · simp only [if_neg enough]

/-- All frames of a memory are free at boot, if they can be numbered. -/
theorem freePages_ofRegistry (registry : ImageRegistry E) {physPages : Nat} (stackPages : Nat)
    (narrow : physPages < values32) :
    (ofRegistry registry physPages stackPages).freePages = physPages := by
  simp [ofRegistry, freePages, FramePool.freeCount, FramePool.ofTotal, frameNumbers,
    Nat.mod_eq_of_lt narrow]

end Loader

/-! ### The operations -/

namespace Kernel

variable {E : Type} {kernel : Kernel E} {parent : Option Pid} {caller target pid : Pid}

/-- The kernel after a process was created below `parent` with the memory that `loader` built. -/
def launched (kernel : Kernel E) (parent : Option Pid) (space : AddressSpace)
    (loader : Loader E) : Kernel E where
  table := (kernel.table.entered parent).activated ⟨kernel.table.nextPid⟩ space
  waiters := kernel.waiters
  loader := loader

/-- What a refusal to create a process tells the engine. -/
def refusalSignals : ExecError → List Effect
  | .pidSpaceExhausted => [.powerOff .pidSpaceExhausted]
  | .noSuchParent => []
  | .load _ => []
  | .start _ => []

/-- Why a process cannot be created; the causes are found out in this order. -/
inductive Refuses (kernel : Kernel E) (parent : Option Pid) (name : String)
    (arguments : List String) : ExecError → Prop
  | exhausted (full : kernel.table.maxPid < kernel.table.nextPid) :
      Refuses kernel parent name arguments .pidSpaceExhausted
  | orphan {creator : Pid} (inRange : kernel.table.nextPid ≤ kernel.table.maxPid)
      (named : parent = some creator) (unknown : kernel.table.contains creator = false) :
      Refuses kernel parent name arguments .noSuchParent
  | unloadable {cause : LoadError} (inRange : kernel.table.nextPid ≤ kernel.table.maxPid)
      (known : ∀ creator, parent = some creator → kernel.table.contains creator = true)
      (failed : kernel.loader.load name arguments = .error cause) :
      Refuses kernel parent name arguments (.load cause)

/-- A creation is refused without a trace, or a process is ready under the next pid. -/
theorem prepare_cases (wellFormed : kernel.table.WellFormed) (parent : Option Pid) (name : String)
    (arguments : List String) :
    (∃ cause effects, kernel.prepare parent name arguments = (.error cause, kernel, effects) ∧
        signals effects = refusalSignals cause ∧ kernel.Refuses parent name arguments cause) ∨
      ∃ entry space loader effects,
        kernel.prepare parent name arguments =
            (.ok ⟨⟨kernel.table.nextPid⟩, entry, space.arguments⟩,
              kernel.launched parent space loader, effects) ∧
          signals effects = [] ∧ kernel.table.nextPid ≤ kernel.table.maxPid ∧
            (∀ creator, parent = some creator → kernel.table.contains creator = true) ∧
              kernel.loader.load name arguments = .ok (⟨entry, space⟩, loader) := by
  unfold prepare
  split
  · rename_i full
    have exhausted := ProcessTable.reserve_eq_exhausted_iff.mp full
    exact Or.inl ⟨_, _, rfl, rfl, .exhausted exhausted⟩
  · rename_i cause other unreserved
    rcases ProcessTable.reserve_eq_error_cases unreserved with
      ⟨rfl, _⟩ | ⟨creator, rfl, inRange, named, unknown⟩
    · exact absurd rfl other
    · exact Or.inl ⟨_, _, rfl, rfl, .orphan inRange named unknown⟩
  · rename_i pid table reserved
    rcases ProcessTable.reserve_eq_ok_iff.mp reserved with ⟨inRange, known, rfl, rfl⟩
    split
    · rename_i cause failed
      left
      refine ⟨.load cause, [], ?_, rfl, .unloadable inRange known failed⟩
      simp [abandon, reclaim, wellFormed.withdraw_entered]
    · rename_i loaded loader built
      right
      have activated : (kernel.table.entered parent).activate ⟨kernel.table.nextPid⟩ loaded.space =
          .ok ((kernel.table.entered parent).activated ⟨kernel.table.nextPid⟩ loaded.space) :=
        ProcessTable.activate_eq_ok_iff.mpr ⟨ProcessTable.stateOf?_entered_nextPid, rfl⟩
      refine ⟨loaded.entry, loaded.space, loader, [.log (loader.loadedRecord loaded.space)], ?_,
        rfl, inRange, known, built⟩
      simp [activated, launched]

/-- A creation that is abandoned at once leaves the kernel as it was. -/
theorem abandon_launched {name : String} {arguments : List String} {entry : E}
    {space : AddressSpace} {loader : Loader E} (wellFormed : kernel.table.WellFormed)
    (built : kernel.loader.load name arguments = .ok (⟨entry, space⟩, loader)) :
    ((kernel.launched parent space loader).abandon ⟨kernel.table.nextPid⟩).1 = kernel := by
  have restored : loader.unload space = kernel.loader := Loader.unload_of_load built
  simp [abandon, reclaim, launched, wellFormed.withdraw_activated_entered, restored]

/-- A process that was prepared has the pid that was next, and can be taken back at once. -/
theorem prepare_eq_ok {next : Kernel E} {name : String} {arguments : List String}
    {launch : Launch E} {effects : List Effect} (wellFormed : kernel.table.WellFormed)
    (prepared : kernel.prepare parent name arguments = (.ok launch, next, effects)) :
    signals effects = [] ∧ launch.pid = ⟨kernel.table.nextPid⟩ ∧
      kernel.table.nextPid ≤ kernel.table.maxPid ∧ (next.abandon launch.pid).1 = kernel := by
  rcases prepare_cases wellFormed parent name arguments with
    ⟨cause, others, answer, _⟩ | ⟨entry, space, loader, others, answer, calm, inRange, _, built⟩
  · rw [answer] at prepared
    cases prepared
  · rw [answer] at prepared
    cases prepared
    exact ⟨calm, rfl, inRange, abandon_launched wellFormed built⟩

/-! ### Taking memory back -/

theorem fst_reclaim (space : Option AddressSpace) :
    (kernel.reclaim space).1 = { kernel with loader := kernel.loader.regained (framesOf space) } := by
  cases space <;> rfl

@[simp]
theorem signals_reclaim (space : Option AddressSpace) : signals (kernel.reclaim space).2 = [] := by
  cases space <;> rfl

/-- Abandoning a creation takes back the memory that the process owns by then. -/
theorem fst_abandon (pid : Pid) :
    (kernel.abandon pid).1 =
      { kernel with
        table := (kernel.table.withdraw pid).2
        loader := kernel.loader.regained (kernel.table.framesOf pid) } := by
  simp [abandon, fst_reclaim, ProcessTable.framesOf, ProcessTable.fst_withdraw]

@[simp]
theorem signals_abandon (pid : Pid) : signals (kernel.abandon pid).2 = [] := by
  simp [abandon]

theorem signals_conclude (pid : Pid) (refusal : Option StartError) :
    signals (kernel.conclude pid refusal).2.2 = [] := by
  cases refusal with
  | none => rfl
  | some cause => exact signals_abandon pid

/-! ### Collecting, ending and halting -/

/-- An attempt to collect is turned down, succeeds, or lets the caller wait. -/
theorem poll_cases (wellFormed : kernel.table.WellFormed) (caller target : Pid) :
    (∃ effects, ¬kernel.table.IsChild caller target ∧ signals effects = [] ∧
        kernel.poll caller target =
          (some (.error .notAChild),
            { kernel with waiters := (kernel.waiters.add target caller).remove target caller },
            effects)) ∨
      (∃ termination effects, kernel.table.IsChild caller target ∧
        kernel.table.stateOf? target = some (.exited termination) ∧ signals effects = [] ∧
          kernel.poll caller target =
            (some (.ok termination),
              { kernel with
                table := kernel.table.collected caller target
                waiters := (kernel.waiters.add target caller).remove target caller },
              effects)) ∨
        ∃ effects, kernel.table.IsChild caller target ∧
          (kernel.table.stateOf? target = some .embryo ∨
            kernel.table.stateOf? target = some .running) ∧ signals effects = [] ∧
            kernel.poll caller target =
              (none, { kernel with waiters := kernel.waiters.add target caller }, effects) := by
  rcases wellFormed.collect_cases caller target with
    ⟨stranger, answer⟩ | ⟨termination, child, ended, answer⟩ | ⟨child, unfinished, answer⟩
  · exact Or.inl ⟨[], stranger, rfl, by simp [poll, answer]⟩
  · exact Or.inr (Or.inl ⟨termination, [.log (.collected caller target termination)], child, ended,
      rfl, by simp [poll, answer]⟩)
  · exact Or.inr (Or.inr ⟨[], child, unfinished, rfl, by simp [poll, answer]⟩)

/-- The kernel after a process that ran has ended. -/
def departed (kernel : Kernel E) (pid : Pid) (status : Option Int32) : Kernel E where
  table := kernel.table.terminated pid status
  waiters := (kernel.waiters.takeAll pid).2
  loader := kernel.loader.regained (kernel.table.framesOf pid)

/-- The end of a process wakes its waiters, and the last one stops the machine. -/
def departureSignals (kernel : Kernel E) (pid : Pid) : List Effect :=
  (kernel.waiters.waitersOf pid).map .wake ++
    if kernel.table.running = 1 then [.powerOff .allExited] else []

/-- A process that does not run cannot end, and one that runs ends in one way only. -/
theorem exit_cases (wellFormed : kernel.table.WellFormed) (caller : Pid) (status : Option Int32) :
    kernel.table.stateOf? caller ≠ some .running ∧ (kernel.exit caller status).1 = kernel ∧
        signals (kernel.exit caller status).2 = [] ∨
      kernel.table.stateOf? caller = some .running ∧
        (kernel.exit caller status).1 = kernel.departed caller status ∧
          signals (kernel.exit caller status).2 = kernel.departureSignals caller := by
  by_cases running : kernel.table.stateOf? caller = some .running
  · right
    rcases ProcessTable.stateOf?_eq_some_iff.mp running with ⟨record, present, state⟩
    have ended : kernel.table.terminate caller status =
        .ok (⟨record.space, kernel.table.running - 1⟩, kernel.table.terminated caller status) :=
      ProcessTable.terminate_eq_ok_iff.mpr ⟨record, present, state, rfl, rfl⟩
    have counted := wellFormed.running_pos present state
    have last : kernel.table.running - 1 = 0 ↔ kernel.table.running = 1 := by omega
    refine ⟨running, ?_, ?_⟩
    · simp [exit, ended, fst_reclaim, departed, ProcessTable.framesOf, present]
    · by_cases alone : kernel.table.running = 1 <;>
        simp [exit, ended, fst_reclaim, departureSignals, WaitQueue.takeAll, last, alone]
  · left
    have refusal : ∃ cause, kernel.table.terminate caller status = .error cause :=
      ProcessTable.exists_terminate_eq_error running
    rcases refusal with ⟨cause, refused⟩
    refine ⟨running, ?_, ?_⟩
    · simp [exit, refused]
    · simp [exit, refused]

/-! ### No operation of the kernel is traced -/

section Untraced

variable (kernel)

theorem untraced_creationRecords (parent : Option Pid) (name : String)
    (result : Except ExecError Pid) : Untraced (creationRecords parent name result) := by
  cases parent <;> cases result <;>
    simp [creationRecords, Effect.Untraced, Log.Record.level]

theorem untraced_reclaim (space : Option AddressSpace) : Untraced (kernel.reclaim space).2 := by
  cases space <;>
    simp [reclaim, Loader.unloadedRecord, Effect.Untraced, Log.Record.level]

theorem untraced_abandon (pid : Pid) : Untraced (kernel.abandon pid).2 := by
  rw [abandon]
  exact untraced_reclaim _ _

theorem untraced_prepare (parent : Option Pid) (name : String) (arguments : List String) :
    Untraced (kernel.prepare parent name arguments).2.2 := by
  unfold prepare
  split
  · simp [Effect.Untraced, Log.Record.level]
  · exact untraced_nil
  · split
    · exact untraced_abandon _ _
    · split
      · simp [Loader.loadedRecord, Effect.Untraced, Log.Record.level]
      · simp [Loader.loadedRecord, Effect.Untraced, Log.Record.level, untraced_reclaim,
          untraced_abandon]

theorem untraced_conclude (pid : Pid) (refusal : Option StartError) :
    Untraced (kernel.conclude pid refusal).2.2 := by
  cases refusal with
  | none => exact untraced_nil
  | some cause => exact untraced_abandon _ _

theorem untraced_poll (caller target : Pid) : Untraced (kernel.poll caller target).2.2 := by
  unfold poll
  rcases kernel.table.collect caller target with ⟨collection, table⟩
  cases collection <;> simp [Effect.Untraced, Log.Record.level]

theorem untraced_exit (caller : Pid) (status : Option Int32) :
    Untraced (kernel.exit caller status).2 := by
  unfold exit
  split
  · simp [Effect.Untraced, Log.Record.level]
  · rename_i departure table terminated
    have last : Untraced (if departure.remaining = 0 then
        [.log .lastExited, .powerOff .allExited] else []) := by
      split <;> simp [Effect.Untraced, Log.Record.level]
    simp [untraced_reclaim, last, Effect.Untraced, Log.Record.level]

theorem untraced_halt (caller : Pid) : Untraced (kernel.halt caller).2.2 := by
  unfold halt
  split <;> simp [Effect.Untraced, Log.Record.level]

end Untraced

end Kernel

end Lifecycle
