import Lifecycle.Proofs.Frames

/-!
# Failed creations

A creation that fails leaves no trace of the process, wherever it fails. If no other call was made
meanwhile, the activity afterwards is the activity before: the same records, counters, waiters and
free frames in the same order. If calls were made while the engine was asked to start the process,
all that is undone is the process itself, whatever became of it by then: it may run, have children,
have ended or have been collected.
-/

namespace Lifecycle

namespace ProcessTable

variable {table : ProcessTable} {pid other : Pid} {record : ProcessRecord}

theorem WellFormed.not_child_of_find?_eq_none (wellFormed : table.WellFormed)
    (absent : table.find? pid = none) (present : table.find? other = some record) :
    record.children.contains pid = false := by
  rw [← Bool.not_eq_true, wellFormed.child_iff present]
  simp [absent]

/-- Withdrawing a process strikes it out everywhere and changes nothing else about the others. -/
theorem WellFormed.find?_withdraw_of_ne (wellFormed : table.WellFormed) (different : other ≠ pid) :
    (table.withdraw pid).2.find? other = (table.find? other).map (.disown pid) := by
  rw [find?_withdraw, if_neg (Ne.symm different)]
  split
  · rfl
  · rename_i stranger
    cases present : table.find? other with
    | none => rfl
    | some record =>
        have absent : record.children.contains pid = false := by
          rw [← Bool.not_eq_true, wellFormed.child_iff present]
          rintro ⟨child, found, named⟩
          apply stranger
          rw [parentOf?_of_find?_eq_some found]
          exact named
        simp [ProcessRecord.disown_of_not_mem absent]

end ProcessTable

/-- The kernel `next` differs from `inside` in that the process `pid` is gone, and in nothing else. -/
structure Kernel.WithoutTrace {E : Type} (inside : Kernel E) (pid : Pid) (next : Kernel E) :
    Prop where
  no_record : next.table.find? pid = none
  no_child : ∀ {other record}, next.table.find? other = some record →
    record.children.contains pid = false
  /-- The memory that the process owned lies in front of the free list. -/
  free_eq : next.loader.pool.free =
    (inside.table.framesOf pid).reverse ++ inside.loader.pool.free
  /-- Nobody owns that memory. -/
  unowned : ∀ {frame}, frame ∈ inside.table.framesOf pid → ∀ other,
    frame ∉ next.table.framesOf other
  /-- Every other process keeps its record, less the failed one among its children. -/
  others : ∀ {other}, other ≠ pid →
    next.table.find? other = (inside.table.find? other).map (.disown pid)
  running_eq : next.table.running = next.table.runningCount
  waiters_eq : next.waiters = inside.waiters
  loader_eq : next.loader = { inside.loader with pool := next.loader.pool }

namespace Activity

variable {E : Type} {activity : Activity E}

/-- Creations that fail in this activity are undone, and nothing else is. -/
structure UndoesCreations (activity : Activity E) : Prop where
  /-- A creation that is refused before the engine is asked to start the process. -/
  refused : ∀ {parent name arguments cause},
    (activity.spawn parent name arguments).happening = .refused parent cause →
      (activity.spawn parent name arguments).after = activity ∧
        signals (activity.spawn parent name arguments).effects = Kernel.refusalSignals cause ∧
          activity.kernel.Refuses parent name arguments cause
  /-- A start that is refused before any other call was made. -/
  restored : ∀ {parent name arguments pid},
    (activity.spawn parent name arguments).happening = .launched parent pid →
      ∀ cause, ∃ moment,
        (activity.spawn parent name arguments).after.step (.answer (some cause)) = some moment ∧
          moment.happening = .withdrawn parent pid (.start cause) ∧ moment.after = activity ∧
            signals (activity.spawn parent name arguments).effects = [] ∧
              signals moment.effects = []
  /-- A start that is refused now, after whatever calls were made since the engine was asked. -/
  withdrawn : ∀ {parent pid outer}, activity.pending = .creation parent pid :: outer →
    ∀ cause, ∃ moment, activity.step (.answer (some cause)) = some moment ∧
      moment.happening = .withdrawn parent pid (.start cause) ∧ moment.after.pending = outer ∧
        signals moment.effects = [] ∧
          activity.kernel.WithoutTrace pid moment.after.kernel

theorem Sound.withoutTrace (sound : activity.Sound) {total : Nat}
    (conserved : activity.kernel.Conserves total) (pid : Pid) :
    activity.kernel.WithoutTrace pid (activity.kernel.abandon pid).1 := by
  have wellFormed := sound.wellFormed
  have left := wellFormed.withdraw pid
  have gone : (activity.kernel.table.withdraw pid).2.find? pid = none := by
    rw [ProcessTable.find?_withdraw, if_pos rfl]
  rw [Kernel.fst_abandon]
  refine ⟨gone, ?_, rfl, ?_, ?_, left.running_eq, rfl, rfl⟩
  · intro other record present
    exact left.not_child_of_find?_eq_none gone present
  · intro frame owned other otherOwned
    rcases ProcessTable.exists_of_mem_framesOf otherOwned with ⟨record, present, member⟩
    rcases ProcessTable.find?_withdraw_cases present with ⟨different, earlier, children, old, rfl⟩
    -- The other process owned the frame before, so it is the failed process.
    apply different
    apply conserved.one_owner owned
    rw [ProcessTable.framesOf_of_find?_eq_some old]
    exact member
  · intro other different
    exact wellFormed.find?_withdraw_of_ne different

theorem Sound.undoesCreations (sound : activity.Sound) {total : Nat}
    (conserved : activity.kernel.Conserves total) : activity.UndoesCreations := by
  refine ⟨?_, ?_, ?_⟩
  · intro parent name arguments cause fails
    rcases activity with ⟨kernel, pending⟩
    rcases Kernel.prepare_cases sound.wellFormed parent name arguments with
      ⟨other, effects, answer, silent, refuses⟩ |
      ⟨entry, space, loader, effects, answer, _⟩
    · simp only [spawn, answer] at fails
      cases fails
      refine ⟨?_, ?_, refuses⟩
      · simp only [spawn, answer]
      · simp only [spawn, answer]
        exact silent
    · simp only [spawn, answer] at fails
      cases fails
  · intro parent name arguments pid launches cause
    rcases activity with ⟨kernel, pending⟩
    rcases Kernel.prepare_cases sound.wellFormed parent name arguments with
      ⟨other, effects, answer, _⟩ | ⟨entry, space, loader, effects, answer, silent, _, _, built⟩
    · simp only [spawn, answer] at launches
      cases launches
    · simp only [spawn, answer] at launches ⊢
      cases launches
      refine ⟨_, rfl, rfl, ?_, silent, Kernel.signals_abandon _⟩
      simp only [Activity.answer, Kernel.conclude]
      rw [Kernel.abandon_launched sound.wellFormed built]
  · intro parent pid outer innermost cause
    rcases activity with ⟨kernel, pending⟩
    simp only at innermost
    subst pending
    exact ⟨_, rfl, rfl, rfl, Kernel.signals_abandon pid, sound.withoutTrace conserved pid⟩

/--
In every activity of every session, a creation that fails is undone: entirely if nothing else
happened meanwhile, and otherwise as far as the failed process itself is concerned.
-/
theorem failed_creations_are_undone (config : KernelConfig) (registry : ImageRegistry E)
    (moves : List Move) : ((boot config registry).run moves).2.UndoesCreations :=
  (sound_run config registry moves).undoesCreations (conserves_run config registry moves)

end Activity

end Lifecycle
