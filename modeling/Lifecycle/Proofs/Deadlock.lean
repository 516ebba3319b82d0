import Lifecycle.Proofs.EngineRuns
import Mathlib.Logic.Relation

/-!
# Joins cannot deadlock

A join waits only for a child of its caller, and a child is younger than its parent. So whoever
follows the waits from one process to the next meets ever larger pids: nobody waits for itself, not
even through others, and because pids are bounded every chain of waits ends.

A chain of waits that starts at a running process ends at a running process as well, provided that no
process is half created. That process does not have to wait, whatever the others are waiting for. In
a session no process is half created when a call is made or when the engine is called, so as long as
one process runs, one of them can go on.
-/

namespace Lifecycle

namespace ProcessTable

variable {table : ProcessTable} {waiter target pid : Pid}

/-- A join of `target` by `waiter` would have to wait now. -/
def WaitsFor (table : ProcessTable) (waiter target : Pid) : Prop :=
  (table.collect waiter target).1 = .stillRunning

theorem WellFormed.waitsFor_iff (wellFormed : table.WellFormed) :
    table.WaitsFor waiter target ↔
      table.IsChild waiter target ∧
        (table.stateOf? target = some .embryo ∨ table.stateOf? target = some .running) := by
  unfold WaitsFor
  rcases wellFormed.collect_cases waiter target with
    ⟨stranger, answer⟩ | ⟨termination, child, ended, answer⟩ | ⟨child, unfinished, answer⟩
  · simp [answer, stranger]
  · simp [answer, ended]
  · simp [answer, child, unfinished]

theorem WellFormed.lt_of_waitsFor (wellFormed : table.WellFormed)
    (waits : table.WaitsFor waiter target) : waiter.number < target.number := by
  rcases wellFormed.waitsFor_iff.mp waits with ⟨child, _⟩
  exact wellFormed.lt_of_parentOf? child.2

theorem WellFormed.lt_of_transGen (wellFormed : table.WellFormed)
    (waits : Relation.TransGen table.WaitsFor waiter target) : waiter.number < target.number := by
  induction waits with
  | single waits => exact wellFormed.lt_of_waitsFor waits
  | tail _ waits ih =>
      have further := wellFormed.lt_of_waitsFor waits
      omega

/-- The waits that begin at a running process lead to one that runs and does not have to wait. -/
theorem WellFormed.exists_unblocked (wellFormed : table.WellFormed)
    (complete : ∀ pid, table.stateOf? pid ≠ some .embryo)
    (running : table.stateOf? pid = some .running) :
    ∃ last, Relation.ReflTransGen table.WaitsFor pid last ∧
      table.stateOf? last = some .running ∧ ∀ target, ¬table.WaitsFor last target := by
  -- The number of pids between this one and the next to be handed out shrinks with every wait.
  induction distance : table.nextPid - pid.number using Nat.strongRecOn generalizing pid with
  | ind distance ih =>
      by_cases blocked : ∃ target, table.WaitsFor pid target
      · rcases blocked with ⟨target, waits⟩
        rcases wellFormed.waitsFor_iff.mp waits with ⟨child, unfinished⟩
        have runs : table.stateOf? target = some .running :=
          unfinished.resolve_left (complete target)
        have older := wellFormed.lt_of_waitsFor waits
        have below := wellFormed.lt_nextPid_of_parentOf? child.2
        rcases ih (table.nextPid - target.number) (by omega) runs rfl with ⟨last, path, free⟩
        exact ⟨last, .head waits path, free⟩
      · refine ⟨pid, .refl, running, ?_⟩
        intro target waits
        exact blocked ⟨target, waits⟩

/--
Nobody waits for itself, directly or through others. If no process is half created, the waits of a
running process end at a running process that does not have to wait.
-/
structure DeadlockFree (table : ProcessTable) : Prop where
  acyclic : ∀ pid, ¬Relation.TransGen table.WaitsFor pid pid
  progress : (∀ pid, table.stateOf? pid ≠ some .embryo) →
    ∀ pid, table.stateOf? pid = some .running →
      ∃ last, Relation.ReflTransGen table.WaitsFor pid last ∧
        table.stateOf? last = some .running ∧ ∀ target, ¬table.WaitsFor last target

theorem WellFormed.deadlockFree (wellFormed : table.WellFormed) : table.DeadlockFree where
  acyclic pid waits := by
    have smaller := wellFormed.lt_of_transGen waits
    omega
  progress complete _ running := wellFormed.exists_unblocked complete running

end ProcessTable

namespace Activity

/--
Whatever operations are applied to a table, the joins on it cannot deadlock. The tables of sessions
are of this kind at every move and after every script, and no process is half created there.
-/
theorem joins_cannot_deadlock :
    (∀ maxPid operations, ((ProcessTable.ofMaxPid maxPid).run operations).DeadlockFree) ∧
      (∀ {E : Type} (config : KernelConfig) (registry : ImageRegistry E) (moves : List Move),
        (∀ pid, ((boot config registry).run moves).2.kernel.table.stateOf? pid ≠ some .embryo) ∧
          ((boot config registry).run moves).2.kernel.table.DeadlockFree) ∧
        ∀ (config : KernelConfig) (images : List (Image String)) (console : Console)
          (steps : List Session.Step),
          let table := (Session.runSteps steps
            (Session.boot config images console)).2.system.kernel.table
          (∀ pid, table.stateOf? pid ≠ some .embryo) ∧ table.DeadlockFree := by
  refine ⟨?_, ?_, ?_⟩
  · intro maxPid operations
    exact ((ProcessTable.wellFormed_ofMaxPid maxPid).run operations).deadlockFree
  · intro E config registry moves
    exact ⟨no_embryo_run config registry moves,
      (sound_run config registry moves).wellFormed.deadlockFree⟩
  · intro config images console steps table
    rcases Session.exists_run_runSteps config images console steps with ⟨moves, reached⟩
    have sound := sound_run config (.ofList images) moves
    have complete := no_embryo_run config (.ofList images) moves
    rw [reached] at sound complete
    exact ⟨complete, sound.wellFormed.deadlockFree⟩

end Activity

end Lifecycle
