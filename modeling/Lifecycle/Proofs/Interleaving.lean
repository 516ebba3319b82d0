import Lifecycle.Proofs.KernelOperations

/-!
# Interleaved calls

Calls of several processes at the same time. A call is cut into the operations on the process table,
the wait queue and the loader that it performs one after the other; each of them is indivisible, and
between two of them any other call may perform one of its own. A stage of a call is the operation
that it performs next.

A schedule is a list of turns. A turn begins a call, which performs its first operation, or it lets a
call in progress perform the next one. Each process has a token: waking the process sets it, and a
suspension clears it when it ends, which it may do at any time.

A call that is not disturbed has the outcome of the kernel's own operation.
-/

namespace Lifecycle

/-- A call in progress, as the operation that it performs next. -/
inductive Stage (E : Type) where
  | reserve (parent : Option Pid) (name : String) (arguments : List String)
  | load (parent : Option Pid) (pid : Pid) (name : String) (arguments : List String)
  | activate (parent : Option Pid) (pid : Pid) (loaded : LoadedImage E)
  /-- The engine is asked to start the process, and the creation returns if it does. -/
  | start (parent : Option Pid) (launch : Launch E)
  /-- Takes back the memory of a process that could not be activated. -/
  | unloadUnused (parent : Option Pid) (pid : Pid) (space : AddressSpace)
  /-- Withdraws a process that was never activated. -/
  | discard (parent : Option Pid) (pid : Pid) (cause : ExecError)
  /-- Withdraws a process that the engine did not start. -/
  | retract (parent : Option Pid) (pid : Pid) (cause : StartError)
  /-- Takes back the memory that a withdrawn process still owned. -/
  | unloadRetracted (parent : Option Pid) (pid : Pid) (space : AddressSpace) (cause : StartError)
  | register (caller target : Pid)
  | look (caller target : Pid)
  | suspend (caller target : Pid)
  /-- Leaves the wait queue and returns. -/
  | deregister (caller target : Pid) (result : Except JoinError Termination)
  | terminate (caller : Pid) (status : Option Int32)
  | unload (caller : Pid) (status : Option Int32) (departure : Departure)
  | release (caller : Pid) (remaining : Nat)
  /-- Wakes the next of the processes that were released; after the last one the call returns. -/
  | wake (caller : Pid) (waiting : List Pid) (remaining : Nat)
  | halt (caller : Pid)
  deriving DecidableEq, Repr

/-- A call with its arguments. -/
inductive Call where
  | spawn (parent : Option Pid) (name : String) (arguments : List String)
  | join (caller target : Pid)
  | exit (caller : Pid) (status : Option Int32)
  | halt (caller : Pid)
  deriving DecidableEq, Repr

namespace Stage

variable {E : Type}

/-- The first operation of a call. -/
def first : Call → Stage E
  | .spawn parent name arguments => .reserve parent name arguments
  | .join caller target => .register caller target
  | .exit caller status => .terminate caller status
  | .halt caller => .halt caller

/-- What a caller does after it looked whether it can collect a process. -/
def afterLook (caller target : Pid) : Collection → Stage E
  | .notAChild => .deregister caller target (.error .notAChild)
  | .stillRunning => .suspend caller target
  | .completed termination => .deregister caller target (.ok termination)

/--
Performs the operation. The engine's answer counts where it is asked to start a process. A call
without a further stage has returned.
-/
def perform (kernel : Kernel E) (refusal : Option StartError) :
    Stage E → Option (Stage E) × Kernel E × List Effect
  | .reserve parent name arguments =>
      match kernel.table.reserve parent with
      | .error .pidSpaceExhausted =>
          (none, kernel, [.log .pidSpaceExhausted, .powerOff .pidSpaceExhausted])
      | .error _ => (none, kernel, [])
      | .ok (pid, table) => (some (.load parent pid name arguments), { kernel with table := table }, [])
  | .load parent pid name arguments =>
      match kernel.loader.load name arguments with
      | .error cause => (some (.discard parent pid (.load cause)), kernel, [])
      | .ok (loaded, loader) =>
          (some (.activate parent pid loaded), { kernel with loader := loader },
            [.log (loader.loadedRecord loaded.space)])
  | .activate parent pid loaded =>
      match kernel.table.activate pid loaded.space with
      | .ok table =>
          (some (.start parent ⟨pid, loaded.entry, loaded.space.arguments⟩),
            { kernel with table := table }, [])
      | .error space => (some (.unloadUnused parent pid space), kernel, [])
  | .start parent launch =>
      (refusal.map (.retract parent launch.pid), kernel, [])
  | .unloadUnused parent pid space =>
      (some (.discard parent pid .noSuchParent), kernel.reclaim (some space))
  | .discard _ pid _ => (none, { kernel with table := (kernel.table.withdraw pid).2 }, [])
  | .retract parent pid cause =>
      let (space, table) := kernel.table.withdraw pid
      (space.map (.unloadRetracted parent pid · cause), { kernel with table := table }, [])
  | .unloadRetracted _ _ space _ => (none, kernel.reclaim (some space))
  | .register caller target =>
      (some (.look caller target),
        { kernel with waiters := kernel.waiters.add target caller }, [])
  | .look caller target =>
      let (collection, table) := kernel.table.collect caller target
      (some (afterLook caller target collection), { kernel with table := table }, [])
  | .suspend caller target => (some (.register caller target), kernel, [])
  | .deregister caller target result =>
      (none, { kernel with waiters := kernel.waiters.remove target caller },
        match result with
        | .ok termination => [.log (.collected caller target termination)]
        | .error _ => [])
  | .terminate caller status =>
      match kernel.table.terminate caller status with
      | .error cause => (none, kernel, [.log (.exitIgnored caller cause)])
      | .ok (departure, table) =>
          (some (.unload caller status departure), { kernel with table := table }, [])
  | .unload caller status departure =>
      let (kernel, reclaimed) := kernel.reclaim departure.space
      (some (.release caller departure.remaining), kernel,
        reclaimed ++ [.log (.exited caller (.ofStatus status) departure.remaining)])
  | .release caller remaining =>
      let (waiting, waiters) := kernel.waiters.takeAll caller
      (some (.wake caller waiting remaining), { kernel with waiters := waiters }, [])
  | .wake caller (waiter :: waiting) remaining =>
      (some (.wake caller waiting remaining), kernel, [.wake waiter])
  | .wake _ [] remaining =>
      (none, kernel, if remaining = 0 then [.log .lastExited, .powerOff .allExited] else [])
  | .halt caller =>
      let (_, kernel, effects) := kernel.halt caller
      (none, kernel, effects)

/-- The processes whose tokens are set after the operation. -/
def tokens (woken : PidSet) : Stage E → PidSet
  | .suspend caller _ => woken.erase caller
  | .wake _ (waiter :: _) _ => woken.insert waiter ()
  | _ => woken

/-! ### A call by itself -/

/-- The call performs operations one after the other, and no other call does anything in between. -/
inductive Alone (refusal : Option StartError) :
    Kernel E → Option (Stage E) → List Effect → Kernel E → Option (Stage E) → Prop
  | nil {kernel : Kernel E} {stage : Option (Stage E)} :
      Alone refusal kernel stage [] kernel stage
  | cons {kernel middle last : Kernel E} {stage : Stage E} {next final : Option (Stage E)}
      {effects later : List Effect} (performed : stage.perform kernel refusal = (next, middle, effects))
      (rest : Alone refusal middle next later last final) :
      Alone refusal kernel (some stage) (effects ++ later) last final

variable {kernel middle last : Kernel E} {refusal : Option StartError} {stage : Stage E}
  {next final : Option (Stage E)} {effects later : List Effect}

theorem Alone.one (performed : stage.perform kernel refusal = (next, last, effects)) :
    Alone refusal kernel (some stage) effects last next := by
  have alone : Alone refusal kernel (some stage) (effects ++ []) last next := .cons performed .nil
  rwa [List.append_nil] at alone

theorem alone_wake (caller : Pid) (waiting : List Pid) (remaining : Nat) :
    Alone refusal kernel (some (.wake caller waiting remaining))
      (waiting.map .wake ++ if remaining = 0 then [.log .lastExited, .powerOff .allExited] else [])
      kernel none := by
  induction waiting with
  | nil =>
      apply Alone.one
      rfl
  | cons waiter waiting ih =>
      rw [List.map_cons, List.cons_append, ← List.singleton_append]
      exact .cons rfl ih

theorem alone_exit (caller : Pid) (status : Option Int32) :
    Alone refusal kernel (some (first (.exit caller status))) (kernel.exit caller status).2
      (kernel.exit caller status).1 none := by
  cases ended : kernel.table.terminate caller status with
  | error cause =>
      apply Alone.one
      simp [first, perform, Kernel.exit, ended]
  | ok result =>
      rcases result with ⟨departure, table⟩
      have begins : (first (.exit caller status)).perform kernel refusal =
          (some (.unload caller status departure), { kernel with table := table }, []) := by
        simp [first, perform, ended]
      have unloads : (unload caller status departure).perform { kernel with table := table } refusal =
          (some (.release caller departure.remaining),
            (Kernel.reclaim { kernel with table := table } departure.space).1,
            (Kernel.reclaim { kernel with table := table } departure.space).2 ++
              [.log (.exited caller (.ofStatus status) departure.remaining)]) := rfl
      have releases : (release caller departure.remaining).perform
          (Kernel.reclaim { kernel with table := table } departure.space).1 refusal =
          (some (.wake caller (kernel.waiters.waitersOf caller) departure.remaining),
            (kernel.exit caller status).1, []) := by
        simp [perform, Kernel.exit, ended, Kernel.fst_reclaim, WaitQueue.takeAll]
      have whole := Alone.cons begins (.cons unloads (.cons releases (alone_wake _ _ _)))
      simpa [Kernel.exit, ended, Kernel.fst_reclaim, WaitQueue.takeAll] using whole

/-- A look ends with the caller's suspension or with the return of the call. -/
theorem alone_look (wellFormed : kernel.table.WellFormed) (caller target : Pid) :
    Alone refusal kernel (some (first (.join caller target))) (kernel.poll caller target).2.2
      (kernel.poll caller target).2.1
      (match (kernel.poll caller target).1 with
        | none => some (.suspend caller target)
        | some _ => none) := by
  have registers : (first (.join caller target)).perform kernel refusal =
      (some (.look caller target), { kernel with waiters := kernel.waiters.add target caller },
        []) := rfl
  rcases wellFormed.collect_cases caller target with
    ⟨_, answer⟩ | ⟨termination, _, _, answer⟩ | ⟨_, _, answer⟩
  · have looks : (look caller target).perform
        { kernel with waiters := kernel.waiters.add target caller } refusal =
        (some (.deregister caller target (.error .notAChild)),
          { kernel with waiters := kernel.waiters.add target caller }, []) := by
      simp [perform, answer, afterLook]
    simpa [Kernel.poll, answer] using Alone.cons registers (.cons looks (.one rfl))
  · have looks : (look caller target).perform
        { kernel with waiters := kernel.waiters.add target caller } refusal =
        (some (.deregister caller target (.ok termination)),
          { kernel with
            table := kernel.table.collected caller target
            waiters := kernel.waiters.add target caller }, []) := by
      simp [perform, answer, afterLook]
    simpa [Kernel.poll, answer] using Alone.cons registers (.cons looks (.one rfl))
  · have looks : (look caller target).perform
        { kernel with waiters := kernel.waiters.add target caller } refusal =
        (some (.suspend caller target),
          { kernel with waiters := kernel.waiters.add target caller }, []) := by
      simp [perform, answer, afterLook]
    simpa [Kernel.poll, answer] using Alone.cons registers (.one looks)

/-- The engine's answer to a start, and what the creation does with it. -/
theorem alone_start (parent : Option Pid) (launch : Launch E) :
    Alone refusal kernel (some (.start parent launch)) (kernel.conclude launch.pid refusal).2.2
      (kernel.conclude launch.pid refusal).2.1 none := by
  cases refusal with
  | none =>
      apply Alone.one
      rfl
  | some cause =>
      have refused : (start parent launch).perform kernel (some cause) =
          (some (.retract parent launch.pid cause), kernel, []) := rfl
      simp only [Kernel.conclude, Kernel.abandon]
      cases owned : (kernel.table.withdraw launch.pid).1 with
      | none =>
          have retracts : (retract parent launch.pid cause).perform kernel (some cause) =
              (none, { kernel with table := (kernel.table.withdraw launch.pid).2 }, []) := by
            simp [perform, owned]
          exact .cons refused (.one retracts)
      | some space =>
          have retracts : (retract parent launch.pid cause).perform kernel (some cause) =
              (some (.unloadRetracted parent launch.pid space cause),
                { kernel with table := (kernel.table.withdraw launch.pid).2 }, []) := by
            simp [perform, owned]
          exact .cons refused (.cons retracts (.one rfl))

/-- A creation fails, or it comes to the point where the engine is asked. -/
theorem alone_spawn (wellFormed : kernel.table.WellFormed) (parent : Option Pid) (name : String)
    (arguments : List String) :
    Alone refusal kernel (some (first (.spawn parent name arguments)))
      (kernel.prepare parent name arguments).2.2 (kernel.prepare parent name arguments).2.1
      (match (kernel.prepare parent name arguments).1 with
        | .ok launch => some (.start parent launch)
        | .error _ => none) := by
  unfold Kernel.prepare
  cases reserved : kernel.table.reserve parent with
  | error cause =>
      apply Alone.one
      cases cause <;> simp [first, perform, reserved]
  | ok result =>
      rcases result with ⟨pid, table⟩
      have begins : (first (.spawn parent name arguments)).perform kernel refusal =
          (some (.load parent pid name arguments), { kernel with table := table }, []) := by
        simp [first, perform, reserved]
      rcases ProcessTable.reserve_eq_ok_iff.mp reserved with ⟨_, _, rfl, rfl⟩
      cases built : kernel.loader.load name arguments with
      | error cause =>
          have fails : (load parent ⟨kernel.table.nextPid⟩ name arguments).perform
              { kernel with table := kernel.table.entered parent } refusal =
              (some (.discard parent ⟨kernel.table.nextPid⟩ (.load cause)),
                { kernel with table := kernel.table.entered parent }, []) := by
            simp [perform, built]
          simpa [Kernel.abandon, wellFormed.withdraw_entered, Kernel.reclaim] using
            Alone.cons begins (.cons fails (.one rfl))
      | ok result =>
          rcases result with ⟨loaded, loader⟩
          have loads : (load parent ⟨kernel.table.nextPid⟩ name arguments).perform
              { kernel with table := kernel.table.entered parent } refusal =
              (some (.activate parent ⟨kernel.table.nextPid⟩ loaded),
                { kernel with table := kernel.table.entered parent, loader := loader },
                [.log (loader.loadedRecord loaded.space)]) := by
            simp [perform, built]
          have activated : (kernel.table.entered parent).activate ⟨kernel.table.nextPid⟩
              loaded.space =
              .ok ((kernel.table.entered parent).activated ⟨kernel.table.nextPid⟩ loaded.space) :=
            ProcessTable.activate_eq_ok_iff.mpr ⟨ProcessTable.stateOf?_entered_nextPid, rfl⟩
          simpa [activated] using Alone.cons begins (.cons loads (.one (by simp [perform, activated])))

/-! ### What an operation can do -/

/-- Every way in which an operation goes: what the call goes on with and what is left of the kernel. -/
inductive Step : Kernel E → Stage E → Option (Stage E) → Kernel E → Prop
  | unreserved {kernel : Kernel E} {parent : Option Pid} {name : String} {arguments : List String} :
      Step kernel (.reserve parent name arguments) none kernel
  | reserved {kernel : Kernel E} {parent : Option Pid} {name : String} {arguments : List String}
      (inRange : kernel.table.nextPid ≤ kernel.table.maxPid)
      (known : ∀ creator, parent = some creator → kernel.table.contains creator = true) :
      Step kernel (.reserve parent name arguments)
        (some (.load parent ⟨kernel.table.nextPid⟩ name arguments))
        { kernel with table := kernel.table.entered parent }
  | unloadable {kernel : Kernel E} {parent : Option Pid} {pid : Pid} {name : String}
      {arguments : List String} {cause : LoadError}
      (failed : kernel.loader.load name arguments = .error cause) :
      Step kernel (.load parent pid name arguments) (some (.discard parent pid (.load cause))) kernel
  | loaded {kernel : Kernel E} {parent : Option Pid} {pid : Pid} {name : String}
      {arguments : List String} {loaded : LoadedImage E} {loader : Loader E}
      (built : kernel.loader.load name arguments = .ok (loaded, loader)) :
      Step kernel (.load parent pid name arguments) (some (.activate parent pid loaded))
        { kernel with loader := loader }
  | activated {kernel : Kernel E} {parent : Option Pid} {pid : Pid} {loaded : LoadedImage E}
      (embryo : kernel.table.stateOf? pid = some .embryo) :
      Step kernel (.activate parent pid loaded)
        (some (.start parent ⟨pid, loaded.entry, loaded.space.arguments⟩))
        { kernel with table := kernel.table.activated pid loaded.space }
  | unactivated {kernel : Kernel E} {parent : Option Pid} {pid : Pid} {loaded : LoadedImage E}
      (other : kernel.table.stateOf? pid ≠ some .embryo) :
      Step kernel (.activate parent pid loaded) (some (.unloadUnused parent pid loaded.space)) kernel
  | started {kernel : Kernel E} {parent : Option Pid} {launch : Launch E} :
      Step kernel (.start parent launch) none kernel
  | refused {kernel : Kernel E} {parent : Option Pid} {launch : Launch E} {cause : StartError} :
      Step kernel (.start parent launch) (some (.retract parent launch.pid cause)) kernel
  | unloadedUnused {kernel : Kernel E} {parent : Option Pid} {pid : Pid} {space : AddressSpace} :
      Step kernel (.unloadUnused parent pid space) (some (.discard parent pid .noSuchParent))
        { kernel with loader := kernel.loader.unload space }
  | discarded {kernel : Kernel E} {parent : Option Pid} {pid : Pid} {cause : ExecError} :
      Step kernel (.discard parent pid cause) none
        { kernel with table := (kernel.table.withdraw pid).2 }
  | retracted {kernel : Kernel E} {parent : Option Pid} {pid : Pid} {cause : StartError}
      {next : Option (Stage E)}
      (regains : next = (kernel.table.withdraw pid).1.map (.unloadRetracted parent pid · cause)) :
      Step kernel (.retract parent pid cause) next
        { kernel with table := (kernel.table.withdraw pid).2 }
  | unloadedRetracted {kernel : Kernel E} {parent : Option Pid} {pid : Pid} {space : AddressSpace}
      {cause : StartError} :
      Step kernel (.unloadRetracted parent pid space cause) none
        { kernel with loader := kernel.loader.unload space }
  | registered {kernel : Kernel E} {caller target : Pid} :
      Step kernel (.register caller target) (some (.look caller target))
        { kernel with waiters := kernel.waiters.add target caller }
  | unfinished {kernel : Kernel E} {caller target : Pid}
      (child : kernel.table.IsChild caller target)
      (unfinished : kernel.table.stateOf? target = some .embryo ∨
        kernel.table.stateOf? target = some .running) :
      Step kernel (.look caller target) (some (.suspend caller target)) kernel
  | turnedDown {kernel : Kernel E} {caller target : Pid}
      (stranger : ¬kernel.table.IsChild caller target) :
      Step kernel (.look caller target) (some (.deregister caller target (.error .notAChild))) kernel
  | collected {kernel : Kernel E} {caller target : Pid} {termination : Termination}
      (child : kernel.table.IsChild caller target)
      (ended : kernel.table.stateOf? target = some (.exited termination)) :
      Step kernel (.look caller target) (some (.deregister caller target (.ok termination)))
        { kernel with table := kernel.table.collected caller target }
  | resumed {kernel : Kernel E} {caller target : Pid} :
      Step kernel (.suspend caller target) (some (.register caller target)) kernel
  | deregistered {kernel : Kernel E} {caller target : Pid}
      {result : Except JoinError Termination} :
      Step kernel (.deregister caller target result) none
        { kernel with waiters := kernel.waiters.remove target caller }
  | exitIgnored {kernel : Kernel E} {caller : Pid} {status : Option Int32}
      (idle : kernel.table.stateOf? caller ≠ some .running) :
      Step kernel (.terminate caller status) none kernel
  | terminated {kernel : Kernel E} {caller : Pid} {status : Option Int32}
      {record : ProcessRecord} (present : kernel.table.find? caller = some record)
      (running : record.state = .running) :
      Step kernel (.terminate caller status)
        (some (.unload caller status ⟨record.space, kernel.table.running - 1⟩))
        { kernel with table := kernel.table.terminated caller status }
  | unloaded {kernel : Kernel E} {caller : Pid} {status : Option Int32} {departure : Departure} :
      Step kernel (.unload caller status departure) (some (.release caller departure.remaining))
        { kernel with loader := kernel.loader.regained (framesOf departure.space) }
  | released {kernel : Kernel E} {caller : Pid} {remaining : Nat} :
      Step kernel (.release caller remaining)
        (some (.wake caller (kernel.waiters.waitersOf caller) remaining))
        { kernel with waiters := (kernel.waiters.takeAll caller).2 }
  | woke {kernel : Kernel E} {caller waiter : Pid} {waiting : List Pid} {remaining : Nat} :
      Step kernel (.wake caller (waiter :: waiting) remaining)
        (some (.wake caller waiting remaining)) kernel
  | departed {kernel : Kernel E} {caller : Pid} {remaining : Nat} :
      Step kernel (.wake caller [] remaining) none kernel
  | halted {kernel : Kernel E} {caller : Pid} : Step kernel (.halt caller) none kernel

theorem step_perform (wellFormed : kernel.table.WellFormed) (refusal : Option StartError)
    (stage : Stage E) :
    Step kernel stage (stage.perform kernel refusal).1 (stage.perform kernel refusal).2.1 := by
  cases stage with
  | reserve parent name arguments =>
      simp only [perform]
      split
      · exact .unreserved
      · exact .unreserved
      · rename_i pid table reserved
        rcases ProcessTable.reserve_eq_ok_iff.mp reserved with ⟨inRange, known, rfl, rfl⟩
        exact .reserved inRange known
  | load parent pid name arguments =>
      simp only [perform]
      split
      · rename_i cause failed
        exact .unloadable failed
      · rename_i loaded loader built
        exact .loaded built
  | activate parent pid loaded =>
      simp only [perform]
      split
      · rename_i table active
        rcases ProcessTable.activate_eq_ok_iff.mp active with ⟨embryo, rfl⟩
        exact .activated embryo
      · rename_i space inactive
        by_cases embryo : kernel.table.stateOf? pid = some .embryo
        · have active := ProcessTable.activate_eq_ok_iff.mpr
            (⟨embryo, rfl⟩ : _ ∧ _ = kernel.table.activated pid loaded.space)
          rw [active] at inactive
          cases inactive
        · have same : space = loaded.space := by
            simpa [ProcessTable.activate, embryo, eq_comm] using inactive
          subst space
          exact .unactivated embryo
  | start parent launch =>
      cases refusal with
      | none => exact .started
      | some cause => exact .refused
  | unloadUnused parent pid space => exact .unloadedUnused
  | discard parent pid cause => exact .discarded
  | retract parent pid cause => exact .retracted rfl
  | unloadRetracted parent pid space cause => exact .unloadedRetracted
  | register caller target => exact .registered
  | look caller target =>
      rcases wellFormed.collect_cases caller target with
        ⟨stranger, answer⟩ | ⟨termination, child, ended, answer⟩ | ⟨child, unfinished, answer⟩
      · simp only [perform, answer, afterLook]
        exact .turnedDown stranger
      · simp only [perform, answer, afterLook]
        exact .collected child ended
      · simp only [perform, answer, afterLook]
        exact .unfinished child unfinished
  | suspend caller target => exact .resumed
  | deregister caller target result => exact .deregistered
  | terminate caller status =>
      simp only [perform]
      split
      · rename_i cause failed
        apply Step.exitIgnored
        intro running
        rcases ProcessTable.stateOf?_eq_some_iff.mp running with ⟨record, present, state⟩
        have ended := ProcessTable.terminate_eq_ok_iff.mpr
          ⟨record, present, state, rfl, (rfl : _ = kernel.table.terminated caller status)⟩
        rw [ended] at failed
        cases failed
      · rename_i departure table ended
        rcases ProcessTable.terminate_eq_ok_iff.mp ended with ⟨record, present, running, rfl, rfl⟩
        exact .terminated present running
  | unload caller status departure =>
      simp only [perform, Kernel.fst_reclaim]
      exact .unloaded
  | release caller remaining => exact .released
  | wake caller waiting remaining =>
      cases waiting with
      | nil => exact .departed
      | cons waiter waiting => exact .woke
  | halt caller =>
      have unchanged : (kernel.halt caller).2.1 = kernel := by
        unfold Kernel.halt
        split <;> rfl
      simp only [perform, unchanged]
      exact .halted

/-- The process that the operation withdraws. -/
def withdrawn? : Stage E → Option Pid
  | .discard _ pid _ => some pid
  | .retract _ pid _ => some pid
  | _ => none

/-- The operation of a call changes the table by one operation of the table at most. -/
theorem Step.changes (step : Step kernel stage next last) :
    last.table = kernel.table ∨
      ∃ operation, kernel.table.Changes operation last.table ∧
        operation.withdrawn? = stage.withdrawn? := by
  cases step with
  | reserved inRange known => exact Or.inr ⟨_, .entered inRange known, rfl⟩
  | activated embryo => exact Or.inr ⟨_, .activated embryo, rfl⟩
  | discarded =>
      rename_i parent pid cause
      rcases ProcessTable.withdraw_cases kernel.table pid with unchanged | changes
      · exact Or.inl unchanged
      · exact Or.inr ⟨_, changes, rfl⟩
  | retracted regains =>
      rename_i parent pid cause
      rcases ProcessTable.withdraw_cases kernel.table pid with unchanged | changes
      · exact Or.inl unchanged
      · exact Or.inr ⟨_, changes, rfl⟩
  | collected child ended => exact Or.inr ⟨_, .collected child ended, rfl⟩
  | terminated present running =>
      have state := ProcessTable.stateOf?_eq_some_iff.mpr ⟨_, present, running⟩
      exact Or.inr ⟨_, .terminated state, rfl⟩
  | _ => exact Or.inl rfl

theorem Step.wellFormed (step : Step kernel stage next last) (wellFormed : kernel.table.WellFormed) :
    last.table.WellFormed := by
  rcases step.changes with unchanged | ⟨operation, changes, _⟩
  · rw [unchanged]
    exact wellFormed
  · exact changes.wellFormed wellFormed

end Stage

/-- A kernel with the calls that are in progress on it. -/
structure Traffic (E : Type) where
  kernel : Kernel E
  /-- The calls in progress, the one that performed an operation last in front. -/
  calls : List (Stage E)
  /-- The processes whose tokens are set. -/
  woken : PidSet
  deriving DecidableEq, Repr

/-- What happens next. -/
inductive Turn where
  /-- A call begins and performs its first operation. -/
  | begin (call : Call)
  /-- The call at a place performs its next operation; the engine answers `refusal` to a start. -/
  | advance (place : Nat) (refusal : Option StartError)
  deriving DecidableEq, Repr

namespace Traffic

variable {E : Type}

/-- One operation of one call. -/
structure Event (E : Type) where
  stage : Stage E
  /-- What the call goes on with. -/
  next : Option (Stage E)
  effects : List Effect
  before : Traffic E
  after : Traffic E

/-- No call was made yet. -/
def boot (config : KernelConfig) (registry : ImageRegistry E) : Traffic E :=
  ⟨.boot config registry, [], ∅⟩

/-- A call performs an operation, beside the calls `others`. -/
def perform (traffic : Traffic E) (stage : Stage E) (refusal : Option StartError)
    (others : List (Stage E)) : Event E :=
  let (next, kernel, effects) := stage.perform traffic.kernel refusal
  ⟨stage, next, effects, traffic, ⟨kernel, next.toList ++ others, stage.tokens traffic.woken⟩⟩

/-- The event that a turn leads to; there is none if no call is at its place. -/
def step (traffic : Traffic E) : Turn → Option (Event E)
  | .begin call => some (traffic.perform (.first call) none traffic.calls)
  | .advance place refusal =>
      traffic.calls[place]?.map fun stage =>
        traffic.perform stage refusal (traffic.calls.eraseIdx place)

/-- The history of a schedule and the traffic that it leads to. -/
def run (traffic : Traffic E) : List Turn → List (Event E) × Traffic E
  | [] => ([], traffic)
  | turn :: schedule =>
      match traffic.step turn with
      | none => run traffic schedule
      | some event =>
          let (history, last) := run event.after schedule
          (event :: history, last)

variable {traffic last : Traffic E} {event : Event E} {turn : Turn}

/-- A call performs an operation, and the calls `others` stay where they are. -/
structure Performs (traffic : Traffic E) (event : Event E) (others : List (Stage E)) : Prop where
  before : event.before = traffic
  step : event.stage.Step traffic.kernel event.next event.after.kernel
  calls : event.after.calls = event.next.toList ++ others
  woken : event.after.woken = event.stage.tokens traffic.woken
  origin : event.stage ∈ traffic.calls ∨ ∃ call, event.stage = .first call
  mem_calls : ∀ other ∈ others, other ∈ traffic.calls
  mem_cases : ∀ stage ∈ traffic.calls, stage = event.stage ∨ stage ∈ others

/-- A turn begins a call, or it is that of a call in progress. -/
theorem step_cases (wellFormed : traffic.kernel.table.WellFormed)
    (fits : traffic.step turn = some event) :
    (∃ call, turn = .begin call ∧ event.stage = .first call ∧
        traffic.Performs event traffic.calls) ∨
      ∃ place refusal others, turn = .advance place refusal ∧
        traffic.calls[place]? = some event.stage ∧
          traffic.calls.Perm (event.stage :: others) ∧ traffic.Performs event others := by
  cases turn with
  | begin call =>
      cases fits
      refine Or.inl ⟨call, rfl, rfl, rfl, ?_, rfl, rfl, Or.inr ⟨call, rfl⟩, ?_, ?_⟩
      · exact Stage.step_perform wellFormed none _
      · intro other member
        exact member
      · intro stage member
        exact Or.inr member
  | advance place refusal =>
      rcases Option.map_eq_some_iff.mp fits with ⟨stage, found, rfl⟩
      rcases List.getElem?_eq_some_iff.mp found with ⟨inRange, rfl⟩
      have moved := (List.getElem_cons_eraseIdx_perm inRange).symm
      refine Or.inr ⟨place, refusal, _, rfl, found, moved, rfl, ?_, rfl, rfl, Or.inl ?_, ?_, ?_⟩
      · exact Stage.step_perform wellFormed refusal _
      · exact moved.mem_iff.mpr List.mem_cons_self
      · intro other member
        exact moved.mem_iff.mpr (List.mem_cons_of_mem _ member)
      · intro stage member
        exact List.mem_cons.mp (moved.mem_iff.mp member)

theorem exists_performs (wellFormed : traffic.kernel.table.WellFormed)
    (fits : traffic.step turn = some event) : ∃ others, traffic.Performs event others := by
  rcases step_cases wellFormed fits with ⟨_, _, _, performs⟩ | ⟨_, _, _, _, _, _, performs⟩
  · exact ⟨_, performs⟩
  · exact ⟨_, performs⟩

/-! ### Histories -/

/-- What every turn keeps, for the history up to it, holds at the end of a schedule. -/
theorem turn_induction (holds : List (Event E) → Traffic E → Prop) (prior : List (Event E))
    (schedule : List Turn) (start : holds prior traffic)
    (keeps : ∀ {prior traffic turn event}, holds prior traffic → step traffic turn = some event →
      holds (prior ++ [event]) event.after) :
    holds (prior ++ (traffic.run schedule).1) (traffic.run schedule).2 := by
  induction schedule generalizing prior traffic with
  | nil =>
      rw [run, List.append_nil]
      exact start
  | cons turn schedule ih =>
      cases fits : traffic.step turn with
      | none =>
          simp only [run, fits]
          exact ih prior start
      | some event =>
          simp only [run, fits]
          rw [List.append_cons]
          exact ih _ (keeps start fits)

/-- What every event keeps in well-formed traffic holds at the end of a schedule. -/
theorem run_induction (holds : List (Event E) → Traffic E → Prop) (prior : List (Event E))
    (schedule : List Turn) (wellFormed : traffic.kernel.table.WellFormed)
    (start : holds prior traffic)
    (keeps : ∀ {prior traffic event others}, holds prior traffic → Performs traffic event others →
      holds (prior ++ [event]) event.after) :
    holds (prior ++ (traffic.run schedule).1) (traffic.run schedule).2 := by
  have kept := turn_induction
    (fun prior traffic => traffic.kernel.table.WellFormed ∧ holds prior traffic)
    prior schedule ⟨wellFormed, start⟩ ?_
  · exact kept.2
  · rintro prior traffic turn event ⟨wellFormed, before⟩ fits
    rcases exists_performs wellFormed fits with ⟨others, performs⟩
    exact ⟨performs.step.wellFormed wellFormed, keeps before performs⟩

end Traffic

end Lifecycle
