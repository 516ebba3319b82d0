import Lifecycle.Proofs.OrderlyTraffic

/-!
# Memory of collected processes

The exit of a process lets its parent collect it before it gives the memory of the process back. So a
parent that looks between these two operations collects a child whose frames are not free yet, and if
the memory is full, its next creation fails. This file shows such a schedule, and it proves what holds
in every interleaving of any calls: when a join has succeeded, the memory of the child was given back
since the child ended, or giving it back is the next operation of the child's exit.
-/

namespace Lifecycle

namespace Stage

variable {E : Type} {kernel last : Kernel E} {stage : Stage E} {next : Option (Stage E)}

/-- The operation ends the process, which leaves its memory to its exit. -/
def Ends (kernel : Kernel E) (stage : Stage E) (next : Option (Stage E)) (pid : Pid)
    (status : Option Int32) (departure : Departure) : Prop :=
  stage = .terminate pid status ∧ next = some (.unload pid status departure) ∧
    framesOf departure.space = kernel.table.framesOf pid

/-- A process has ended before, or this operation ends it. -/
theorem Step.ended_cases (step : Step kernel stage next last) {pid : Pid} {termination : Termination}
    (ended : last.table.stateOf? pid = some (.exited termination)) :
    kernel.table.stateOf? pid = some (.exited termination) ∨
      ∃ status departure, termination = .ofStatus status ∧
        Ends kernel stage next pid status departure := by
  cases step with
  | reserved inRange known =>
      simp only [ProcessTable.stateOf?_entered] at ended
      split at ended
      · cases ended
      · exact Or.inl ended
  | activated embryo =>
      simp only [ProcessTable.stateOf?_activated] at ended
      split at ended
      · rcases Option.map_eq_some_iff.mp ended with ⟨state, _, impossible⟩
        cases impossible
      · exact Or.inl ended
  | discarded =>
      simp only [ProcessTable.stateOf?_withdraw] at ended
      split at ended
      · cases ended
      · exact Or.inl ended
  | retracted regains =>
      simp only [ProcessTable.stateOf?_withdraw] at ended
      split at ended
      · cases ended
      · exact Or.inl ended
  | collected child exited =>
      simp only [ProcessTable.stateOf?_collected] at ended
      split at ended
      · cases ended
      · exact Or.inl ended
  | terminated present running =>
      rename_i caller status record
      simp only [ProcessTable.stateOf?_terminated] at ended
      split at ended
      · rename_i same
        subst same
        rcases Option.map_eq_some_iff.mp ended with ⟨state, _, same⟩
        cases same
        exact Or.inr ⟨status, _, rfl, rfl, rfl, by simp [ProcessTable.framesOf, present]⟩
      · exact Or.inl ended
  | _ => exact Or.inl ended

/-- Only a process that has ended is collected. -/
theorem Step.ended_of_returns {caller target : Pid} {termination : Termination}
    (step : Step kernel stage (some (.deregister caller target (.ok termination))) last) :
    kernel.table.stateOf? target = some (.exited termination) := by
  cases step with
  | collected child ended => exact ended
  | retracted regains =>
      rcases Option.map_eq_some_iff.mp regains.symm with ⟨space, _, impossible⟩
      cases impossible

end Stage

namespace Traffic

variable {E : Type} {traffic : Traffic E} {event : Event E} {others : List (Stage E)}
  {prior : List (Event E)} {pid : Pid} {termination : Termination}

/-- The memory with which a process ended was given back, or the exit is just about to do so. -/
def Reclaimed (later : List (Event E)) (traffic : Traffic E) (pid : Pid) (status : Option Int32)
    (departure : Departure) : Prop :=
  (∃ given ∈ later, given.stage = .unload pid status departure ∧
      given.after.kernel.loader =
        given.before.kernel.loader.regained (framesOf departure.space)) ∨
    .unload pid status departure ∈ traffic.calls

/-- The process ended with this termination, and its memory was reclaimed since or is about to be. -/
def Departed (history : List (Event E)) (traffic : Traffic E) (pid : Pid)
    (termination : Termination) : Prop :=
  ∃ earlier ends later status departure, history = earlier ++ ends :: later ∧
    termination = .ofStatus status ∧
      Stage.Ends ends.before.kernel ends.stage ends.next pid status departure ∧
        Reclaimed later traffic pid status departure

/-- Every process that has ended, collected or not, is accounted for. -/
structure Accounted (history : List (Event E)) (traffic : Traffic E) : Prop where
  ended : ∀ pid termination, traffic.kernel.table.stateOf? pid = some (.exited termination) →
    Departed history traffic pid termination
  collected : ∀ caller pid termination, .deregister caller pid (.ok termination) ∈ traffic.calls →
    Departed history traffic pid termination

theorem Performs.departed (performs : traffic.Performs event others)
    (departed : Departed prior traffic pid termination) :
    Departed (prior ++ [event]) event.after pid termination := by
  rcases departed with ⟨earlier, ends, later, status, departure, rfl, result, ended, reclaimed⟩
  refine ⟨earlier, ends, later ++ [event], status, departure, by simp, result, ended, ?_⟩
  rcases reclaimed with ⟨given, member, gives⟩ | inProgress
  · exact Or.inl ⟨given, List.mem_append_left _ member, gives⟩
  · rcases performs.mem_cases _ inProgress with same | other
    · left
      refine ⟨event, by simp, same.symm, ?_⟩
      have step := performs.step
      rw [← same] at step
      rw [performs.before]
      generalize event.next = next at step
      generalize event.after.kernel = kernel at step ⊢
      cases step with
      | unloaded => rfl
    · right
      rw [performs.calls]
      exact List.mem_append_right _ other

theorem Performs.accounted (performs : traffic.Performs event others)
    (accounted : Accounted prior traffic) : Accounted (prior ++ [event]) event.after := by
  refine ⟨?_, ?_⟩
  · intro pid termination ended
    rcases performs.step.ended_cases ended with before | ⟨status, departure, result, ends⟩
    · exact performs.departed (accounted.ended pid termination before)
    · refine ⟨prior, event, [], status, departure, rfl, result, ?_, Or.inr ?_⟩
      · rw [performs.before]
        exact ends
      · rw [performs.calls, ends.2.1]
        simp
  · intro caller pid termination member
    rw [performs.calls] at member
    rcases List.mem_append.mp member with goesOn | other
    · apply performs.departed
      apply accounted.ended
      have step := performs.step
      rw [Option.mem_toList.mp goesOn] at step
      exact step.ended_of_returns
    · exact performs.departed
        (accounted.collected caller pid termination (performs.mem_calls _ other))

theorem accounted_boot (config : KernelConfig) (registry : ImageRegistry E) :
    Accounted [] (boot config registry) := by
  refine ⟨?_, ?_⟩
  · intro pid termination ended
    cases ended
  · intro caller pid termination member
    cases member

/-- The history up to an event accounts for the traffic before it, at every event of a schedule. -/
theorem accounted_run (config : KernelConfig) (registry : ImageRegistry E) (schedule : List Turn)
    {earlier later : List (Event E)} {event : Event E}
    (split : ((boot config registry).run schedule).1 = earlier ++ event :: later) :
    Accounted earlier event.before ∧ ∃ others, event.before.Performs event others := by
  have reached := run_induction
    (fun history traffic => Accounted history traffic ∧
      ∀ {earlier event later}, history = earlier ++ event :: later →
        Accounted earlier event.before ∧ ∃ others, event.before.Performs event others)
    [] schedule (ProcessTable.wellFormed_ofMaxPid config.maxPid)
    ⟨accounted_boot config registry, by simp⟩ ?_
  · exact reached.2 split
  · rintro prior traffic event others ⟨accounted, held⟩ performs
    refine ⟨performs.accounted accounted, ?_⟩
    intro earlier returned later split
    rcases append_singleton_eq_append_cons split with ⟨rfl, rfl⟩ | ⟨shorter, before⟩
    · rw [performs.before]
      exact ⟨accounted, others, performs⟩
    · exact held before

/--
Whatever calls interleave, when a join succeeds, the child has ended with the termination that the
join returns, and its memory was given back since, or its exit is about to give it back.
-/
theorem collected_memory_is_reclaimed (config : KernelConfig) (registry : ImageRegistry E)
    (schedule : List Turn) {earlier later : List (Event E)} {returned : Event E}
    {caller target : Pid} {termination : Termination}
    (split : ((boot config registry).run schedule).1 = earlier ++ returned :: later)
    (returns : returned.stage = .deregister caller target (.ok termination)) :
    Departed earlier returned.before target termination := by
  rcases accounted_run config registry schedule split with ⟨accounted, others, performs⟩
  rcases performs.origin with present | ⟨call, begins⟩
  · rw [returns] at present
    exact accounted.collected caller target termination present
  · rw [returns] at begins
    cases call <;> cases begins

/-- The parent looks for its child right after the child has ended, and creates the next one. -/
def collectedBeforeUnload : List Turn :=
  [.begin (.spawn none "a.coff" []), .advance 0 none, .advance 0 none, .advance 0 none,
    .begin (.spawn (some ⟨0⟩) "a.coff" []), .advance 0 none, .advance 0 none, .advance 0 none,
    .begin (.exit ⟨1⟩ (some 7)), .begin (.join ⟨0⟩ ⟨1⟩), .advance 0 none, .advance 0 none,
    .begin (.spawn (some ⟨0⟩) "a.coff" []), .advance 0 none]

/-- The memory has room for two processes. -/
def roomForTwo : KernelConfig := { physPages := 20 }

theorem collected_memory_is_reclaimed_later :
    let history := ((boot roomForTwo (.ofList [⟨"a.coff", 1, ()⟩])).run collectedBeforeUnload).1
    ∃ returned later, history = history.take 11 ++ returned :: later ∧
      returned.stage = .deregister ⟨0⟩ ⟨1⟩ (.ok (.exit 7)) ∧
        Departed (history.take 11) returned.before ⟨1⟩ (.exit 7) := by
  intro history
  have long : 11 < history.length := by
    decide +kernel
  have split : history = history.take 11 ++ history[11] :: history.drop 12 := by
    rw [List.getElem_cons_drop, List.take_append_drop]
  have stages : (history.map Event.stage)[11]? = some (.deregister ⟨0⟩ ⟨1⟩ (.ok (.exit 7))) := by
    decide +kernel
  have returns : history[11].stage = .deregister ⟨0⟩ ⟨1⟩ (.ok (.exit 7)) := by
    simpa [List.getElem?_eq_getElem long] using stages
  exact ⟨history[11], _, split, returns,
    collected_memory_is_reclaimed roomForTwo (.ofList [⟨"a.coff", 1, ()⟩]) collectedBeforeUnload
      split returns⟩

/-- A join succeeds while the child's frames are not free, and the next creation finds no memory. -/
theorem memory_outlives_its_process :
    let start : Traffic Unit := boot roomForTwo (.ofList [⟨"a.coff", 1, ()⟩])
    start.Orderly collectedBeforeUnload ∧
      (∃ event ∈ (start.run collectedBeforeUnload).1,
        event.stage = .deregister ⟨0⟩ ⟨1⟩ (.ok (.exit 7)) ∧
          event.after.kernel.loader.pool.free = []) ∧
      .discard (some ⟨0⟩) ⟨2⟩ (.load .outOfMemory) ∈ (start.run collectedBeforeUnload).2.calls := by
  decide +kernel

end Traffic

end Lifecycle
