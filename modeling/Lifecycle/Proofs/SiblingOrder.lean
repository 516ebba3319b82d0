import Lifecycle.Proofs.EngineRuns
import Lifecycle.Proofs.Outcomes
import Lifecycle.Proofs.PageAccounts

/-!
# Siblings end in any order

Some children of a process are to end, each with a status of its own, and to be collected. This file
proves that the order makes no difference, as long as each one ends before it is collected: no wait
is suspended, every wait brings the status of the child that it was made for, and what is left in
the end is the same.

The proof gives what is left in closed form, as a relation to the kernel from before that knows the
children as a mere list. Each deed adds one of them to a list, so the relation follows by induction
over the deeds, and permuted lists stand for the same kernel.
-/

namespace Lifecycle

/-! ### Deeds -/

/-- A child that is to end, and the status that it gives. -/
structure Sibling where
  pid : Pid
  status : Option Int32
  deriving DecidableEq, Repr

/-- What is to be done about a child. -/
inductive Deed where
  /-- It ends. -/
  | exit (sibling : Sibling)
  /-- Its parent waits for it. -/
  | join (sibling : Sibling)
  deriving DecidableEq, Repr

namespace Deed

/-- The call that does it. -/
def move (parent : Pid) : Deed → Move
  | exit sibling => .exit sibling.pid sibling.status
  | join sibling => .join parent sibling.pid

/--
What is to happen then: a wait returns at once, with the status that the child gave, or with the news
that it gave none.
-/
def happening (parent : Pid) : Deed → Happening
  | exit sibling => .exited sibling.pid sibling.status
  | join ⟨pid, some status⟩ => .joined parent pid (.ok (.exit status))
  | join ⟨pid, none⟩ => .joined parent pid (.ok .abnormal)

theorem happening_join (parent : Pid) (sibling : Sibling) :
    (join sibling).happening parent =
      .joined parent sibling.pid (.ok (.ofStatus sibling.status)) := by
  rcases sibling with ⟨pid, status⟩
  cases status with
  | none => rfl
  | some status => rfl

/-- The child that ends. -/
def exit? : Deed → Option Sibling
  | exit sibling => some sibling
  | join _ => none

/-- The child that is waited for. -/
def join? : Deed → Option Sibling
  | exit _ => none
  | join sibling => some sibling

/-- The pids of those that end, in the order in which they do. -/
def ended (deeds : List Deed) : List Pid := (deeds.filterMap exit?).map Sibling.pid

/-- The pids of those that are collected, in the order in which they are. -/
def gone (deeds : List Deed) : List Pid := (deeds.filterMap join?).map Sibling.pid

/-- Every sibling ends once and is waited for once, after it has ended. -/
structure Arranges (siblings : List Sibling) (deeds : List Deed) : Prop where
  complete : deeds.Perm (siblings.flatMap fun sibling => [exit sibling, join sibling])
  ordered : ∀ sibling ∈ siblings, [exit sibling, join sibling].Sublist deeds

variable {siblings : List Sibling} {deeds : List Deed}

theorem Arranges.filterMap_perm (arranges : Arranges siblings deeds) {pick : Deed → Option Sibling}
    (once : ∀ sibling, [exit sibling, join sibling].filterMap pick = [sibling]) :
    ((deeds.filterMap pick).map Sibling.pid).Perm (siblings.map Sibling.pid) := by
  have picked := arranges.complete.filterMap pick
  simp only [List.filterMap_flatMap, once, List.flatMap_singleton'] at picked
  exact picked.map Sibling.pid

theorem Arranges.ended_perm (arranges : Arranges siblings deeds) :
    (ended deeds).Perm (siblings.map Sibling.pid) :=
  arranges.filterMap_perm fun _ => rfl

theorem Arranges.gone_perm (arranges : Arranges siblings deeds) :
    (gone deeds).Perm (siblings.map Sibling.pid) :=
  arranges.filterMap_perm fun _ => rfl

theorem mem_ended {sibling : Sibling} (member : exit sibling ∈ deeds) :
    sibling.pid ∈ ended deeds :=
  List.mem_map_of_mem (List.mem_filterMap.mpr ⟨_, member, rfl⟩)

theorem mem_gone {sibling : Sibling} (member : join sibling ∈ deeds) :
    sibling.pid ∈ gone deeds :=
  List.mem_map_of_mem (List.mem_filterMap.mpr ⟨_, member, rfl⟩)

theorem exists_of_mem_ended {pid : Pid} (member : pid ∈ ended deeds) :
    ∃ sibling, exit sibling ∈ deeds ∧ sibling.pid = pid := by
  rcases List.mem_map.mp member with ⟨sibling, picked, rfl⟩
  rcases List.mem_filterMap.mp picked with ⟨deed, present, picks⟩
  cases deed with
  | exit other =>
      cases picks
      exact ⟨sibling, present, rfl⟩
  | join other => cases picks

/-- No two siblings that are collected have the same pid. -/
theorem eq_of_join_mem {one other : Sibling} (apart : (gone deeds).Nodup)
    (first : join one ∈ deeds) (second : join other ∈ deeds) (same : one.pid = other.pid) :
    one = other :=
  List.inj_on_of_nodup_map apart (List.mem_filterMap.mpr ⟨_, first, rfl⟩)
    (List.mem_filterMap.mpr ⟨_, second, rfl⟩) same

end Deed

/-! ### What is left -/

/-- The record without the given children. -/
def ProcessRecord.disownAll (children : List Pid) (record : ProcessRecord) : ProcessRecord :=
  { record with children := children.foldl .erase record.children }

theorem PidMap.find?_foldl_erase {α : Type} (map : PidMap α) (pids : List Pid) (key : Pid) :
    (pids.foldl .erase map).find? key = if key ∈ pids then none else map.find? key := by
  induction pids generalizing map with
  | nil => simp
  | cons pid pids ih =>
      rw [List.foldl_cons, ih, PidMap.find?_erase]
      by_cases same : pid = key
      · simp [same]
      · simp [same, Ne.symm same]

theorem ProcessRecord.disownAll_of_perm {one other : List Pid} (perm : one.Perm other) :
    disownAll one = disownAll other := by
  funext record
  have same : one.foldl .erase record.children = other.foldl .erase record.children := by
    apply PidMap.ext_find?
    intro key
    simp only [PidMap.find?_foldl_erase, perm.mem_iff]
  rw [disownAll, disownAll, same]

/--
The kernel `next` is what is left of the first one after the processes `ended` have ended and
`gone`, which are children of `parent`, were collected by it.
-/
structure Kernel.Relieved {E : Type} (kernel : Kernel E) (parent : Pid) (ended gone : List Pid)
    (next : Kernel E) : Prop where
  /-- All other records stay as they are, but for the children of the parent. -/
  find?_eq : ∀ pid, next.table.find? pid =
    if pid ∈ gone then none
    else if parent = pid then (kernel.table.find? pid).map (.disownAll gone)
    else kernel.table.find? pid
  running_eq : next.table.running + ended.length = kernel.table.running
  nextPid_eq : next.table.nextPid = kernel.table.nextPid
  maxPid_eq : next.table.maxPid = kernel.table.maxPid
  /-- Nobody waits for those that have ended. -/
  waiters_eq : ∀ pid, next.waiters.waiters.find? pid =
    if pid ∈ ended then none else kernel.waiters.waiters.find? pid
  /-- The memory of those that have ended is free. -/
  free_perm : next.loader.pool.free.Perm
    (ended.flatMap kernel.table.framesOf ++ kernel.loader.pool.free)
  loader_eq : next.loader =
    { kernel.loader with pool := { kernel.loader.pool with free := next.loader.pool.free } }

namespace Kernel

variable {E : Type} {kernel next : Kernel E} {parent target : Pid} {ended gone : List Pid}

theorem Relieved.refl (kernel : Kernel E) (parent : Pid) : kernel.Relieved parent [] [] kernel where
  find?_eq pid := by
    have same : ProcessRecord.disownAll [] = id := rfl
    simp [same]
  running_eq := rfl
  nextPid_eq := rfl
  maxPid_eq := rfl
  waiters_eq pid := by simp
  free_perm := List.Perm.refl _
  loader_eq := rfl

theorem framesOf_flatMap_congr {left right : ProcessTable}
    (same : ∀ pid ∈ ended, left.spaceOf? pid = right.spaceOf? pid) :
    ended.flatMap left.framesOf = ended.flatMap right.framesOf := by
  apply List.flatMap_congr
  intro pid member
  exact congrArg Lifecycle.framesOf (same pid member)

/-- A process that ends first, and is collected later, adds itself to those that end. -/
theorem Relieved.of_departed {status : Option Int32} (wellFormed : kernel.table.WellFormed)
    (running : kernel.table.stateOf? target = some .running)
    (relieved : (kernel.departed target status).Relieved parent ended gone next)
    (once : target ∉ ended) (collected : target ∈ gone) :
    kernel.Relieved parent (target :: ended) gone next where
  find?_eq pid := by
    rw [relieved.find?_eq]
    split
    · rfl
    · rename_i stays
      have other : target ≠ pid := by
        rintro rfl
        exact stays collected
      simp only [departed, ProcessTable.find?_terminated, if_neg other]
  running_eq := by
    rcases ProcessTable.stateOf?_eq_some_iff.mp running with ⟨record, present, state⟩
    have counted := wellFormed.running_pos present state
    have rest := relieved.running_eq
    simp only [departed, ProcessTable.terminated] at rest
    rw [List.length_cons]
    omega
  nextPid_eq := relieved.nextPid_eq
  maxPid_eq := relieved.maxPid_eq
  waiters_eq pid := by
    rw [relieved.waiters_eq]
    simp only [departed, WaitQueue.takeAll, PidMap.find?_erase, List.mem_cons]
    by_cases same : pid = target
    · simp [same]
    · simp [same, Ne.symm same]
  free_perm := by
    have others : ended.flatMap (kernel.table.terminated target status).framesOf =
        ended.flatMap kernel.table.framesOf := by
      apply framesOf_flatMap_congr
      intro pid member
      have other : target ≠ pid := by
        rintro rfl
        exact once member
      rw [ProcessTable.spaceOf?_terminated, if_neg other]
    have rest := relieved.free_perm
    simp only [departed, Loader.regained, FramePool.giveBack, others] at rest
    rw [List.flatMap_cons, List.append_assoc]
    exact (rest.trans (List.perm_append_comm_assoc _ _ _)).trans
      ((List.reverse_perm _).append_right _)
  loader_eq := relieved.loader_eq

/-- A process that has ended and is collected first adds itself to those that are gone. -/
theorem Relieved.of_collected (unawaited : kernel.waiters.waiters.find? target = none)
    (relieved : (kernel.collected parent target).Relieved parent ended gone next)
    (past : target ∉ ended) : kernel.Relieved parent ended (target :: gone) next where
  find?_eq pid := by
    rw [relieved.find?_eq]
    simp only [collected, ProcessTable.find?_collected, List.mem_cons]
    by_cases same : pid = target
    · simp [same]
    · by_cases later : pid ∈ gone
      · simp [later]
      · by_cases creator : parent = pid
        · have more : ProcessRecord.disownAll (target :: gone) =
              ProcessRecord.disownAll gone ∘ .disown target := rfl
          simp [same, later, creator, Ne.symm same, more]
        · simp [same, later, creator, Ne.symm same]
  running_eq := relieved.running_eq
  nextPid_eq := relieved.nextPid_eq
  maxPid_eq := relieved.maxPid_eq
  waiters_eq pid := by
    rw [relieved.waiters_eq]
    simp only [collected, WaitQueue.remove_add unawaited]
  free_perm := by
    have others : ended.flatMap (kernel.table.collected parent target).framesOf =
        ended.flatMap kernel.table.framesOf := by
      apply framesOf_flatMap_congr
      intro pid member
      have other : target ≠ pid := by
        rintro rfl
        exact past member
      rw [ProcessTable.spaceOf?_collected, if_neg other]
    have rest := relieved.free_perm
    simp only [collected, others] at rest
    exact rest
  loader_eq := relieved.loader_eq

/-- It does not matter in which order the processes are listed. -/
theorem Relieved.of_perm {ends goes : List Pid} (relieved : kernel.Relieved parent ended gone next)
    (endedPerm : ended.Perm ends) (gonePerm : gone.Perm goes) :
    kernel.Relieved parent ends goes next where
  find?_eq pid := by
    rw [relieved.find?_eq]
    simp only [gonePerm.mem_iff, ProcessRecord.disownAll_of_perm gonePerm]
  running_eq := by
    rw [← endedPerm.length_eq]
    exact relieved.running_eq
  nextPid_eq := relieved.nextPid_eq
  maxPid_eq := relieved.maxPid_eq
  waiters_eq pid := by
    rw [relieved.waiters_eq]
    simp only [endedPerm.mem_iff]
  free_perm := relieved.free_perm.trans ((endedPerm.flatMap_right _).append_right _)
  loader_eq := relieved.loader_eq

/-- The relation leaves nothing open but the order of the free frames. -/
theorem Relieved.unique {other : Kernel E} (relieved : kernel.Relieved parent ended gone next)
    (also : kernel.Relieved parent ended gone other) :
    next.table = other.table ∧ next.waiters = other.waiters ∧
      next.loader.pool.free.Perm other.loader.pool.free := by
  refine ⟨?_, ?_, relieved.free_perm.trans also.free_perm.symm⟩
  · apply ProcessTable.ext_find?
    · intro pid
      rw [relieved.find?_eq, also.find?_eq]
    · rw [relieved.nextPid_eq, also.nextPid_eq]
    · have one := relieved.running_eq
      have two := also.running_eq
      omega
    · rw [relieved.maxPid_eq, also.maxPid_eq]
  · have same : next.waiters.waiters = other.waiters.waiters := by
      apply PidMap.ext_find?
      intro pid
      rw [relieved.waiters_eq, also.waiters_eq]
    cases one : next.waiters
    cases two : other.waiters
    simp_all

/-! ### What every deed keeps -/

/--
What holds as long as the deeds are still to be done: a child that is still to end runs, and one
that is only to be collected has ended with its status, and nobody waits for it.
-/
structure Awaits (kernel : Kernel E) (parent : Pid) (deeds : List Deed) : Prop where
  wellFormed : kernel.table.WellFormed
  ended_nodup : (Deed.ended deeds).Nodup
  gone_nodup : (Deed.gone deeds).Nodup
  child : ∀ {sibling}, .join sibling ∈ deeds → kernel.table.IsChild parent sibling.pid
  running : ∀ {sibling}, .exit sibling ∈ deeds →
    kernel.table.stateOf? sibling.pid = some .running ∧
      [.exit sibling, .join sibling].Sublist deeds
  exited : ∀ {sibling}, .join sibling ∈ deeds → .exit sibling ∉ deeds →
    kernel.table.stateOf? sibling.pid = some (.exited (.ofStatus sibling.status)) ∧
      kernel.waiters.waiters.find? sibling.pid = none

namespace Awaits

variable {sibling : Sibling} {deeds : List Deed}

theorem ends (awaits : kernel.Awaits parent (.exit sibling :: deeds)) :
    kernel.table.stateOf? sibling.pid = some .running ∧ .join sibling ∈ deeds := by
  rcases awaits.running List.mem_cons_self with ⟨running, ordered⟩
  refine ⟨running, ?_⟩
  have later := ordered.subset (List.mem_cons_of_mem _ List.mem_cons_self)
  exact (List.mem_cons.mp later).resolve_left Deed.noConfusion

theorem departed (awaits : kernel.Awaits parent (.exit sibling :: deeds)) :
    (kernel.departed sibling.pid sibling.status).Awaits parent deeds := by
  rcases awaits.ends with ⟨running, collected⟩
  have wellFormed := awaits.wellFormed
  rcases List.nodup_cons.mp awaits.ended_nodup with ⟨once, others⟩
  refine ⟨wellFormed.terminated running, others, awaits.gone_nodup, ?_, ?_, ?_⟩
  · intro other member
    rcases awaits.child (List.mem_cons_of_mem _ member) with ⟨known, named⟩
    refine ⟨?_, ?_⟩
    · simpa only [Kernel.departed, ProcessTable.contains_terminated] using known
    · simpa only [Kernel.departed, ProcessTable.parentOf?_terminated] using named
  · intro other member
    have different : sibling.pid ≠ other.pid := by
      intro same
      exact once (same ▸ Deed.mem_ended member)
    rcases awaits.running (List.mem_cons_of_mem _ member) with ⟨runs, ordered⟩
    refine ⟨?_, ?_⟩
    · simpa only [Kernel.departed, ProcessTable.stateOf?_terminated, if_neg different] using runs
    · cases ordered with
      | cons _ later => exact later
      | cons_cons _ later => exact absurd rfl different
  · intro other member unended
    simp only [Kernel.departed, ProcessTable.stateOf?_terminated, WaitQueue.takeAll,
      PidMap.find?_erase]
    by_cases same : sibling.pid = other.pid
    · have alike := Deed.eq_of_join_mem awaits.gone_nodup
        (List.mem_cons_of_mem _ collected) (List.mem_cons_of_mem _ member) same
      subst other
      simp [running]
    · have stays : .exit other ∉ .exit sibling :: deeds := by
        rw [List.mem_cons, not_or]
        refine ⟨?_, unended⟩
        rintro ⟨rfl⟩
        exact same rfl
      simpa only [if_neg same] using awaits.exited (List.mem_cons_of_mem _ member) stays

/-- A child that is collected next has ended, and does not end again. -/
theorem joins (awaits : kernel.Awaits parent (.join sibling :: deeds)) :
    .exit sibling ∉ deeds ∧ sibling.pid ∉ Deed.ended deeds ∧ sibling.pid ∉ Deed.gone deeds ∧
      kernel.table.stateOf? sibling.pid = some (.exited (.ofStatus sibling.status)) ∧
        kernel.waiters.waiters.find? sibling.pid = none := by
  have once := (List.nodup_cons.mp awaits.gone_nodup).1
  have unended : .exit sibling ∉ .join sibling :: deeds := by
    intro member
    rcases awaits.running member with ⟨_, ordered⟩
    cases ordered with
    | cons _ later =>
        exact once (Deed.mem_gone (later.subset (List.mem_cons_of_mem _ List.mem_cons_self)))
  rcases awaits.exited List.mem_cons_self unended with ⟨ended, unawaited⟩
  refine ⟨fun member => unended (List.mem_cons_of_mem _ member), ?_, once, ended, unawaited⟩
  intro member
  rcases Deed.exists_of_mem_ended member with ⟨other, exits, same⟩
  have running := (awaits.running (List.mem_cons_of_mem _ exits)).1
  rw [same, ended] at running
  cases running

theorem collected (awaits : kernel.Awaits parent (.join sibling :: deeds)) :
    (kernel.collected parent sibling.pid).Awaits parent deeds := by
  rcases awaits.joins with ⟨_, past, once, ended, unawaited⟩
  have child := awaits.child List.mem_cons_self
  have elder : sibling.pid ≠ parent := by
    intro same
    have below := awaits.wellFormed.lt_of_parentOf? child.2
    rw [same] at below
    omega
  refine ⟨awaits.wellFormed.collected child ended, awaits.ended_nodup,
    (List.nodup_cons.mp awaits.gone_nodup).2, ?_, ?_, ?_⟩
  · intro other member
    have different : sibling.pid ≠ other.pid := by
      intro same
      exact once (same ▸ Deed.mem_gone member)
    rcases awaits.child (List.mem_cons_of_mem _ member) with ⟨known, named⟩
    refine ⟨?_, ?_⟩
    · exact ProcessTable.contains_collected.mpr ⟨elder, known⟩
    · simpa only [Kernel.collected, ProcessTable.parentOf?_collected, if_neg different] using named
  · intro other member
    have different : sibling.pid ≠ other.pid := by
      intro same
      exact past (same ▸ Deed.mem_ended member)
    rcases awaits.running (List.mem_cons_of_mem _ member) with ⟨runs, ordered⟩
    refine ⟨?_, ?_⟩
    · simpa only [Kernel.collected, ProcessTable.stateOf?_collected, if_neg different] using runs
    · cases ordered with
      | cons _ later => exact later
  · intro other member unended
    have different : sibling.pid ≠ other.pid := by
      intro same
      exact once (same ▸ Deed.mem_gone member)
    have stays : .exit other ∉ .join sibling :: deeds := by
      rw [List.mem_cons, not_or]
      exact ⟨Deed.noConfusion, unended⟩
    rcases awaits.exited (List.mem_cons_of_mem _ member) stays with ⟨state, unawaitedToo⟩
    refine ⟨?_, ?_⟩
    · simpa only [Kernel.collected, ProcessTable.stateOf?_collected, if_neg different] using state
    · simpa only [Kernel.collected, WaitQueue.remove_add unawaited] using unawaitedToo

end Awaits

end Kernel

/-! ### Runs -/

namespace Activity

variable {E : Type} {activity : Activity E} {kernel : Kernel E} {parent : Pid}
  {sibling : Sibling} {siblings : List Sibling} {deeds : List Deed}

theorem step_exit (pending : List PendingCall)
    (awaits : kernel.Awaits parent (.exit sibling :: deeds)) :
    ∃ moment, (Activity.mk kernel pending).step ((Deed.exit sibling).move parent) = some moment ∧
      moment.happening = (Deed.exit sibling).happening parent ∧
        moment.after = ⟨kernel.departed sibling.pid sibling.status, pending⟩ := by
  rcases Kernel.exit_cases awaits.wellFormed sibling.pid sibling.status with
    ⟨idle, _⟩ | ⟨_, left, _⟩
  · exact absurd awaits.ends.1 idle
  · exact ⟨_, rfl, rfl, congrArg (Activity.mk · pending) left⟩

theorem step_join (pending : List PendingCall)
    (awaits : kernel.Awaits parent (.join sibling :: deeds)) :
    ∃ moment, (Activity.mk kernel pending).step ((Deed.join sibling).move parent) = some moment ∧
      moment.happening = (Deed.join sibling).happening parent ∧
        moment.after = ⟨kernel.collected parent sibling.pid, pending⟩ := by
  rcases awaits.joins with ⟨_, _, _, ended, _⟩
  have child := awaits.child List.mem_cons_self
  rcases Kernel.poll_cases awaits.wellFormed parent sibling.pid with
    ⟨effects, stranger, _⟩ | ⟨termination, effects, _, state, _, answer⟩ |
    ⟨effects, _, unfinished, _⟩
  · exact absurd child stranger
  · rw [ended] at state
    cases state
    refine ⟨_, rfl, ?_, ?_⟩
    · simp only [look, answer, Deed.happening_join]
    · simp only [look, answer]
      rfl
  · rw [ended] at unfinished
    rcases unfinished with unfinished | unfinished <;> cases unfinished

/-- All deeds are done, one after the other, and nothing is pending then that was not before. -/
theorem run_of_awaits (awaits : kernel.Awaits parent deeds) (pending : List PendingCall) :
    ∃ history next,
      (Activity.mk kernel pending).run (deeds.map (Deed.move parent)) =
          (history, ⟨next, pending⟩) ∧
        history.map Moment.happening = deeds.map (Deed.happening parent) ∧
          next.table.WellFormed ∧
            kernel.Relieved parent (Deed.ended deeds) (Deed.gone deeds) next := by
  induction deeds generalizing kernel with
  | nil => exact ⟨[], kernel, rfl, rfl, awaits.wellFormed, .refl kernel parent⟩
  | cons deed deeds ih =>
      cases deed with
      | exit sibling =>
          rcases step_exit pending awaits with ⟨moment, fits, happens, after⟩
          rcases ih awaits.departed with ⟨history, next, run, happenings, wellFormed, relieved⟩
          refine ⟨moment :: history, next, ?_, ?_, wellFormed, ?_⟩
          · rw [List.map_cons, run_cons_of_step fits, after, run]
          · rw [List.map_cons, List.map_cons, happens, happenings]
          · rcases awaits.ends with ⟨running, collected⟩
            have once := (List.nodup_cons.mp awaits.ended_nodup).1
            have joined : sibling.pid ∈ Deed.gone deeds := Deed.mem_gone collected
            exact relieved.of_departed awaits.wellFormed running once joined
      | join sibling =>
          rcases step_join pending awaits with ⟨moment, fits, happens, after⟩
          rcases ih awaits.collected with ⟨history, next, run, happenings, wellFormed, relieved⟩
          refine ⟨moment :: history, next, ?_, ?_, wellFormed, ?_⟩
          · rw [List.map_cons, run_cons_of_step fits, after, run]
          · rw [List.map_cons, List.map_cons, happens, happenings]
          · rcases awaits.joins with ⟨_, past, _, _, unawaited⟩
            exact relieved.of_collected unawaited past

theorem awaits_of_arranges (wellFormed : kernel.table.WellFormed)
    (distinct : (siblings.map Sibling.pid).Nodup)
    (running : ∀ sibling ∈ siblings, kernel.table.IsChild parent sibling.pid ∧
      kernel.table.stateOf? sibling.pid = some .running)
    (arranges : Deed.Arranges siblings deeds) : kernel.Awaits parent deeds := by
  have listed {sibling : Sibling}
      (member : .exit sibling ∈ deeds ∨ .join sibling ∈ deeds) : sibling ∈ siblings := by
    simp only [arranges.complete.mem_iff, List.mem_flatMap, List.mem_cons, List.not_mem_nil,
      Deed.exit.injEq, Deed.join.injEq, reduceCtorEq, or_false, false_or, or_self,
      exists_eq_right'] at member
    exact member
  refine ⟨wellFormed, arranges.ended_perm.nodup_iff.mpr distinct,
    arranges.gone_perm.nodup_iff.mpr distinct, ?_, ?_, ?_⟩
  · intro sibling member
    exact (running sibling (listed (Or.inr member))).1
  · intro sibling member
    have known := listed (Or.inl member)
    exact ⟨(running sibling known).2, arranges.ordered sibling known⟩
  · intro sibling member unended
    have ordered := arranges.ordered sibling (listed (Or.inr member))
    exact absurd (ordered.subset List.mem_cons_self) unended

/--
Done in this order, every wait returns at once with the status of its child, and in the end the
children are gone and can no longer be waited for.
-/
structure Settles (activity : Activity E) (parent : Pid) (siblings : List Sibling)
    (deeds : List Deed) (last : Activity E) : Prop where
  run_eq : (activity.run (deeds.map (Deed.move parent))).2 = last
  happenings : (activity.run (deeds.map (Deed.move parent))).1.map Moment.happening =
    deeds.map (Deed.happening parent)
  pending_eq : last.pending = activity.pending
  again : ∀ sibling ∈ siblings, ∃ moment, last.step (.join parent sibling.pid) = some moment ∧
    moment.happening = .joined parent sibling.pid (.error .notAChild)
  relieved : activity.kernel.Relieved parent (siblings.map Sibling.pid)
    (siblings.map Sibling.pid) last.kernel

theorem look_of_absent {target : Pid} (wellFormed : activity.kernel.table.WellFormed)
    (absent : activity.kernel.table.find? target = none) :
    ∃ moment, activity.step (.join parent target) = some moment ∧
      moment.happening = .joined parent target (.error .notAChild) := by
  have nobody : ¬activity.kernel.table.IsChild parent target := by
    rintro ⟨_, named⟩
    rcases ProcessTable.parentOf?_eq_some_iff.mp named with ⟨record, present, _⟩
    rw [absent] at present
    cases present
  rcases Kernel.poll_cases wellFormed parent target with
    ⟨effects, _, _, answer⟩ | ⟨termination, effects, child, _⟩ | ⟨effects, child, _⟩
  · refine ⟨_, rfl, ?_⟩
    simp only [look, answer]
  · exact absurd child nobody
  · exact absurd child nobody

/--
Wherever a session has led, children of one process that run end and are collected in any order with
one and the same result: each wait returns the status of its own child without being suspended, no
child can be collected again, and the process table, the wait queue and the set of free frames do
not depend on the order.
-/
theorem siblings_end_in_any_order (config : KernelConfig) (registry : ImageRegistry E)
    (moves : List Move) {parent : Pid} {siblings : List Sibling}
    (distinct : (siblings.map Sibling.pid).Nodup)
    (running : ∀ sibling ∈ siblings,
      ((boot config registry).run moves).2.kernel.table.IsChild parent sibling.pid ∧
        ((boot config registry).run moves).2.kernel.table.stateOf? sibling.pid = some .running) :
    (∀ deeds, Deed.Arranges siblings deeds →
      ∃ last, ((boot config registry).run moves).2.Settles parent siblings deeds last) ∧
    ∀ one other first second,
      ((boot config registry).run moves).2.Settles parent siblings one first →
      ((boot config registry).run moves).2.Settles parent siblings other second →
        first.kernel.table = second.kernel.table ∧ first.kernel.waiters = second.kernel.waiters ∧
          first.kernel.loader.pool.free.Perm second.kernel.loader.pool.free := by
  have wellFormed := (sound_run config registry moves).wellFormed
  refine ⟨?_, ?_⟩
  · intro deeds arranges
    have awaits := awaits_of_arranges wellFormed distinct running arranges
    rcases run_of_awaits awaits ((boot config registry).run moves).2.pending with
      ⟨history, next, run, happenings, left, relieved⟩
    have settled := relieved.of_perm arranges.ended_perm arranges.gone_perm
    refine ⟨⟨next, ((boot config registry).run moves).2.pending⟩, ?_, ?_, rfl, ?_, settled⟩
    · rw [run]
    · rw [run]
      exact happenings
    · intro sibling member
      have absent : next.table.find? sibling.pid = none := by
        rw [settled.find?_eq, if_pos (List.mem_map_of_mem member)]
      exact look_of_absent left absent
  · intro one other first second here there
    exact here.relieved.unique there.relieved

/-- The first process creates two children. -/
def twoChildrenStart : List Move :=
  [.spawn none "a.coff" [], .answer none, .spawn (some .root) "a.coff" [], .answer none,
    .spawn (some .root) "a.coff" [], .answer none]

/-- After that; both children run. -/
def withTwoChildren : Activity String :=
  ((boot {} (.ofList [⟨"a.coff", 1, "a"⟩])).run twoChildrenStart).2

/-- The second child ends before the first one, and is collected after it. -/
theorem siblings_end_in_any_order_crosswise :
    let first : Sibling := ⟨⟨1⟩, some 7⟩
    let second : Sibling := ⟨⟨2⟩, none⟩
    let deeds : List Deed := [.exit second, .exit first, .join first, .join second]
    (∀ sibling ∈ [first, second], withTwoChildren.kernel.table.IsChild .root sibling.pid ∧
        withTwoChildren.kernel.table.stateOf? sibling.pid = some .running) ∧
      Deed.Arranges [first, second] deeds ∧
        ∃ last, withTwoChildren.Settles .root [first, second] deeds last := by
  intro first second deeds
  have running : ∀ sibling ∈ [first, second],
      withTwoChildren.kernel.table.IsChild .root sibling.pid ∧
        withTwoChildren.kernel.table.stateOf? sibling.pid = some .running := by
    intro sibling member
    rcases List.mem_pair.mp member with rfl | rfl
    · exact ⟨⟨by decide +kernel, by decide +kernel⟩, by decide +kernel⟩
    · exact ⟨⟨by decide +kernel, by decide +kernel⟩, by decide +kernel⟩
  have arranges : Deed.Arranges [first, second] deeds := ⟨by decide, by decide⟩
  refine ⟨running, arranges, ?_⟩
  unfold withTwoChildren at running ⊢
  exact (siblings_end_in_any_order _ _ _ (by decide) running).1 deeds arranges

end Activity

end Lifecycle
