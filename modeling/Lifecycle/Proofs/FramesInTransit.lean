import Lifecycle.Proofs.Frames
import Lifecycle.Proofs.SeparateCreations

/-!
# Frames in transit

Between two operations of a call, frames can be neither free nor owned by a record: a creation holds
the memory that was built for a process until the process is activated, and memory that was taken from
a record is held until it is unloaded. With the frames that calls hold the ledger balances at every
moment, however creations, exits and joins overlap.
-/

namespace Lifecycle

namespace Stage

variable {E : Type} {kernel last : Kernel E} {stage : Stage E} {next : Option (Stage E)}

/-- The frames that the call holds before the operation. -/
def heldFrames : Stage E → List Frame
  | .activate _ _ loaded => loaded.space.frames
  | .unloadUnused _ _ space => space.frames
  | .unloadRetracted _ _ space _ => space.frames
  | .unload _ _ departure => framesOf departure.space
  | _ => []

theorem heldFrames_first (call : Call) : (first call : Stage E).heldFrames = [] := by
  cases call <;> rfl

/-- The frames that a call holds after an operation; a call that has returned holds none. -/
def inTransit : Option (Stage E) → List Frame
  | none => []
  | some stage => stage.heldFrames

/-- An operation moves frames between the free list, the records and its call. -/
theorem Step.allFrames (step : Step kernel stage next last) (wellFormed : kernel.table.WellFormed)
    (embryo : ∀ pid, stage.unborn? = some pid → kernel.table.stateOf? pid = some .embryo) :
    (inTransit next : Multiset Frame) + last.allFrames =
      (stage.heldFrames : Multiset Frame) + kernel.allFrames := by
  cases step with
  | reserved inRange known =>
      simp only [Kernel.allFrames, wellFormed.frames_entered]
      rfl
  | loaded built =>
      simp only [inTransit, heldFrames, Multiset.coe_nil, zero_add, Kernel.allFrames,
        Kernel.coe_free_of_load built]
      exact (add_assoc _ _ _).symm
  | activated state =>
      rename_i parent pid loaded
      rcases ProcessTable.stateOf?_eq_some_iff.mp state with ⟨record, present, unborn⟩
      have bare := wellFormed.space_eq_none present (by simp [unborn])
      simp only [inTransit, heldFrames, Multiset.coe_nil, zero_add, Kernel.allFrames,
        ProcessTable.frames_activated present bare]
      exact add_left_comm _ _ _
  | unloadedUnused =>
      simp only [inTransit, heldFrames, Multiset.coe_nil, zero_add]
      exact Kernel.allFrames_regained _
  | discarded =>
      rename_i parent pid cause
      rcases ProcessTable.stateOf?_eq_some_iff.mp (embryo pid rfl) with ⟨record, present, unborn⟩
      have bare := wellFormed.space_eq_none present (by simp [unborn])
      have nothing : kernel.table.framesOf pid = [] := by
        rw [ProcessTable.framesOf_of_find?_eq_some present, ProcessRecord.frames, bare]
        rfl
      have kept := @ProcessTable.frames_withdraw kernel.table pid
      rw [nothing, Multiset.coe_nil, zero_add] at kept
      simp only [Kernel.allFrames, kept]
      rfl
  | retracted regains =>
      rename_i parent pid cause
      have taken : inTransit next = kernel.table.framesOf pid := by
        rw [regains, ProcessTable.fst_withdraw, ProcessTable.framesOf]
        cases (kernel.table.find? pid).bind ProcessRecord.space <;> rfl
      simp only [taken, heldFrames, Multiset.coe_nil, zero_add, Kernel.allFrames]
      rw [add_left_comm, ProcessTable.frames_withdraw]
  | unloadedRetracted =>
      simp only [inTransit, heldFrames, Multiset.coe_nil, zero_add]
      exact Kernel.allFrames_regained _
  | collected child ended =>
      simp only [Kernel.allFrames, wellFormed.frames_collected ended]
      rfl
  | terminated present running =>
      rename_i caller status record
      have owned := ProcessTable.framesOf_of_find?_eq_some present
      simp only [inTransit, heldFrames, Multiset.coe_nil, zero_add, Kernel.allFrames]
      rw [add_left_comm, ← ProcessTable.frames_terminated present, owned]
      rfl
  | unloaded =>
      simp only [inTransit, heldFrames, Multiset.coe_nil, zero_add]
      exact Kernel.allFrames_regained _
  | _ => rfl

end Stage

namespace Traffic

variable {E : Type} {traffic : Traffic E} {event : Event E} {others : List (Stage E)}

/-- The frames that calls in progress hold. -/
def heldFrames (traffic : Traffic E) : List Frame := traffic.calls.flatMap Stage.heldFrames

/-- The frames that are free, owned by records or held by calls. -/
def ledger (traffic : Traffic E) : Multiset Frame :=
  (traffic.heldFrames : Multiset Frame) + traffic.kernel.allFrames

theorem Proceeds.heldFrames_after (proceeds : traffic.Proceeds event others) :
    event.after.heldFrames = Stage.inTransit event.next ++ others.flatMap Stage.heldFrames := by
  rw [heldFrames, proceeds.calls, List.flatMap_append]
  cases event.next <;> simp [Stage.inTransit]

theorem Proceeds.heldFrames_before (proceeds : traffic.Proceeds event others) :
    traffic.heldFrames.Perm (event.stage.heldFrames ++ others.flatMap Stage.heldFrames) := by
  rcases proceeds.taken with ⟨⟨call, begins⟩, rfl⟩ | moved
  · rw [begins, Stage.heldFrames_first]
    exact List.Perm.refl _
  · exact moved.flatMap_right Stage.heldFrames

theorem Proceeds.ledger_eq (proceeds : traffic.Proceeds event others)
    (wellFormed : traffic.kernel.table.WellFormed) : event.after.ledger = traffic.ledger := by
  have moved := proceeds.step.allFrames wellFormed proceeds.embryo
  have before := Multiset.coe_eq_coe.mpr proceeds.heldFrames_before
  unfold ledger
  rw [proceeds.heldFrames_after, before, ← Multiset.coe_add, ← Multiset.coe_add, add_right_comm,
    moved, add_right_comm]

theorem ledger_run (config : KernelConfig) (registry : ImageRegistry E) (schedule : List Turn) :
    ((boot config registry).run schedule).2.ledger = (boot config registry).ledger :=
  separate_induction (fun _ traffic => traffic.ledger = (boot config registry).ledger) [] schedule
    (separate_boot config registry) rfl
    (fun separate balanced proceeds => (proceeds.ledger_eq separate.wellFormed).trans balanced)

theorem ledger_boot (config : KernelConfig) (registry : ImageRegistry E) :
    (boot config registry).ledger = ((FramePool.ofTotal config.physPages).free : Multiset Frame) :=
  (zero_add _).trans (Activity.allFrames_boot config registry)

theorem frames_run (config : KernelConfig) (registry : ImageRegistry E) (schedule : List Turn) :
    (((boot config registry).run schedule).2.kernel.loader.pool.free ++
      ((boot config registry).run schedule).2.kernel.table.ownedFrames ++
        ((boot config registry).run schedule).2.heldFrames).Perm
      (FramePool.ofTotal config.physPages).free := by
  have balanced := (ledger_run config registry schedule).trans (ledger_boot config registry)
  rw [← Multiset.coe_eq_coe, ← balanced, ← Multiset.coe_add, ← Multiset.coe_add,
    ProcessTable.coe_ownedFrames]
  exact add_comm _ _

/--
However creations, exits, joins and halts overlap: a creation can always activate the process that it
reserved, it withdraws nothing but that process, and creations that succeed return different pids. The
free frames, those that processes own and those that calls hold are the frames of the untouched pool.
-/
theorem creations_never_interfere (config : KernelConfig) (registry : ImageRegistry E)
    (schedule : List Turn) :
    Undisturbed ((boot config registry).run schedule).1 ∧
      (((boot config registry).run schedule).2.kernel.loader.pool.free ++
        ((boot config registry).run schedule).2.kernel.table.ownedFrames ++
          ((boot config registry).run schedule).2.heldFrames).Perm
        (FramePool.ofTotal config.physPages).free :=
  ⟨(recounts_run config registry schedule).undisturbed, frames_run config registry schedule⟩

end Traffic

end Lifecycle
