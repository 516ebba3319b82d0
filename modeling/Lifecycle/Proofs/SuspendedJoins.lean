import Lifecycle.Proofs.PowerOff
import Lifecycle.Proofs.WaitQueue

/-!
# Suspended joins and the wait queue

The wait queue is a second account of the joins that are suspended. A join enters its caller before
it looks for its target and strikes it out again when it returns; the end of the target strikes out
everybody who waits for it. As long as no suspended join is given up, the queue therefore agrees
with the stack of pending calls, and an exit wakes the process whose join is suspended and nobody
else.

There is one exception. The queue holds a process once for each target, however many of its joins
are suspended on it. If a join returns while an outer join of the same pair is suspended, it strikes
out the outer one too. With the target still running, that join was turned down, so its caller is no
process any more: it exited and was collected while it was suspended.
-/

namespace Lifecycle

/-! ### What a history says about joins -/

/-- The process that a pending call waits for. -/
def PendingCall.target? : PendingCall → Option Pid
  | creation _ _ => none
  | wait _ target => some target

/-- A process that is created inside a call is younger than the one that the call waits for. -/
def PendingCall.Inside (inner outer : PendingCall) : Prop :=
  ∀ pid target, inner.created? = some pid → outer.target? = some target →
    target.number < pid.number

/-- A suspended join is given up. -/
def Happening.givesUp : Happening → Bool
  | .givenUp _ _ => true
  | _ => false

/-- The processes that effects wake, in their order. -/
def woken (effects : List Effect) : List Pid :=
  effects.filterMap fun
    | .wake pid => some pid
    | _ => none

section Since

variable {E : Type}

/-- Whether something happened that `sets`, and nothing since then that `clears`. -/
def since (sets clears : Moment E → Bool) (history : List (Moment E)) : Bool :=
  history.foldl (fun held moment => sets moment || held && !clears moment) false

theorem since_snoc (sets clears : Moment E → Bool) (history : List (Moment E)) (last : Moment E) :
    since sets clears (history ++ [last]) =
      (sets last || since sets clears history && !clears last) := by
  simp [since, List.foldl_append]

/-- The process ran and ended. -/
def Moment.ends (pid : Pid) (moment : Moment E) : Bool :=
  match moment.happening with
  | .exited caller _ =>
      decide (caller = pid ∧ moment.before.kernel.table.stateOf? pid = some .running)
  | _ => false

/-- The pid went to a new process. -/
def Moment.launches (pid : Pid) (moment : Moment E) : Bool :=
  match moment.happening with
  | .launched _ newcomer => decide (newcomer = pid)
  | _ => false

/-- A join of `target` by `waiter` was suspended. -/
def Moment.suspends (waiter target : Pid) (moment : Moment E) : Bool :=
  decide (moment.happening = .suspended waiter target)

/-- A join of the process by `waiter` returned. -/
def Moment.answers (waiter target : Pid) (moment : Moment E) : Bool :=
  match moment.happening with
  | .joined caller other _ => decide (other = target ∧ caller = waiter)
  | _ => false

/-- The process that has the pid now, or had it last, ran and ended. -/
def hasExited (history : List (Moment E)) (pid : Pid) : Bool :=
  since (Moment.ends pid) (Moment.launches pid) history

/-- Some join of the pair was suspended, and none has returned since. -/
def attends (history : List (Moment E)) (waiter target : Pid) : Bool :=
  since (Moment.suspends waiter target) (Moment.answers waiter target) history

end Since

namespace Activity

variable {E : Type} {activity next last : Activity E} {history : List (Moment E)}
  {moment : Moment E} {waiter target pid : Pid}

theorem hasExited_snoc :
    hasExited (history ++ [moment]) pid =
      (moment.ends pid || hasExited history pid && !moment.launches pid) :=
  since_snoc _ _ history moment

theorem attends_snoc :
    attends (history ++ [moment]) waiter target =
      (moment.suspends waiter target ||
        attends history waiter target && !moment.answers waiter target) :=
  since_snoc _ _ history moment

theorem hasExited_snoc_of_quiet (ends : ∀ pid, moment.ends pid = false)
    (launches : ∀ pid, moment.launches pid = false) (pid : Pid) :
    hasExited (history ++ [moment]) pid = hasExited history pid := by
  simp [hasExited_snoc, ends, launches]

theorem hasExited_snoc_of_idle {caller : Pid} {status : Option Int32}
    (idle : moment.before.kernel.table.stateOf? caller ≠ some .running)
    (exits : moment.happening = .exited caller status) (pid : Pid) :
    hasExited (history ++ [moment]) pid = hasExited history pid := by
  apply hasExited_snoc_of_quiet
  · intro pid
    simp only [Moment.ends, exits, decide_eq_false_iff_not]
    rintro ⟨rfl, running⟩
    exact idle running
  · intro pid
    simp only [Moment.launches, exits]

theorem hasExited_snoc_of_running {caller : Pid} {status : Option Int32}
    (running : moment.before.kernel.table.stateOf? caller = some .running)
    (exits : moment.happening = .exited caller status) (pid : Pid) :
    hasExited (history ++ [moment]) pid = true ↔ caller = pid ∨ hasExited history pid = true := by
  simp only [hasExited_snoc, Moment.ends, Moment.launches, exits, Bool.not_false, Bool.and_true,
    Bool.or_eq_true, decide_eq_true_eq]
  constructor
  · exact Or.imp_left And.left
  · rintro (rfl | earlier)
    · exact Or.inl ⟨rfl, running⟩
    · exact Or.inr earlier

/-! ### The targets of suspended joins -/

/-- What is known of the processes that suspended joins wait for. -/
structure Targets (history : List (Moment E)) (activity : Activity E) : Prop where
  no_embryo : ∀ pid, activity.kernel.table.stateOf? pid ≠ some .embryo
  stopped : ∀ {pid}, hasExited history pid = true →
    activity.kernel.table.stateOf? pid ≠ some .running
  child : ∀ {waiter target}, .wait waiter target ∈ activity.pending →
    hasExited history target = false →
      activity.kernel.table.stateOf? target = some .running ∧
        activity.kernel.table.parentOf? target = some waiter
  below_next : ∀ {waiter target}, .wait waiter target ∈ activity.pending →
    target.number < activity.kernel.table.nextPid
  inside : activity.pending.Pairwise PendingCall.Inside

theorem Targets.hasExited_of_running (targets : Targets history activity)
    (running : activity.kernel.table.stateOf? pid = some .running) :
    hasExited history pid = false := by
  rw [← Bool.not_eq_true]
  intro exited
  exact targets.stopped exited running

/-- Calls return, and nothing changes in the table. -/
theorem Targets.returned (targets : Targets history activity)
    (table : next.kernel.table = activity.kernel.table)
    (shorter : next.pending.Sublist activity.pending)
    (same : ∀ pid, hasExited (history ++ [moment]) pid = hasExited history pid) :
    Targets (history ++ [moment]) next := by
  refine ⟨?_, ?_, ?_, ?_, targets.inside.sublist shorter⟩
  · rw [table]
    exact targets.no_embryo
  · intro pid exited
    rw [same] at exited
    rw [table]
    exact targets.stopped exited
  · intro waiter target member alive
    rw [same] at alive
    rw [table]
    exact targets.child (shorter.subset member) alive
  · intro waiter target member
    rw [table]
    exact targets.below_next (shorter.subset member)

theorem Targets.launched {kernel : Kernel E} {pending : List PendingCall} {parent : Option Pid}
    {space : AddressSpace} {loader : Loader E} (targets : Targets history ⟨kernel, pending⟩)
    (complete : ∀ pid, (kernel.launched parent space loader).table.stateOf? pid ≠ some .embryo)
    (launches : moment.happening = .launched parent ⟨kernel.table.nextPid⟩) :
    Targets (history ++ [moment]) ⟨kernel.launched parent space loader,
      .creation parent ⟨kernel.table.nextPid⟩ :: pending⟩ := by
  -- Nobody waits for the newcomer, and it has not run before.
  have exited : ∀ pid, hasExited (history ++ [moment]) pid = true ↔
      pid ≠ ⟨kernel.table.nextPid⟩ ∧ hasExited history pid = true := by
    intro pid
    simp [hasExited_snoc, Moment.ends, Moment.launches, launches, and_comm, @eq_comm _ pid]
  refine ⟨complete, ?_, ?_, ?_, ?_⟩
  · intro pid ended
    rcases (exited pid).mp ended with ⟨different, before⟩
    simp only [Kernel.launched, ProcessTable.stateOf?_activated, ProcessTable.stateOf?_entered]
    simpa [different, Ne.symm different] using targets.stopped before
  · intro waiter target member alive
    have called : .wait waiter target ∈ pending := by simpa using member
    have different := Pid.ne_of_lt (targets.below_next called)
    have alive : hasExited history target = false := by
      rw [← Bool.not_eq_true] at alive ⊢
      intro before
      exact alive ((exited target).mpr ⟨different, before⟩)
    simp only [Kernel.launched, ProcessTable.stateOf?_activated, ProcessTable.stateOf?_entered,
      ProcessTable.parentOf?_activated, ProcessTable.parentOf?_entered]
    simpa [different, Ne.symm different] using targets.child called alive
  · intro waiter target member
    have called : .wait waiter target ∈ pending := by simpa using member
    exact Nat.lt_succ_of_lt (targets.below_next called)
  · apply List.pairwise_cons.mpr
    refine ⟨?_, targets.inside⟩
    intro outer member pid target created waits
    cases created
    cases outer with
    | creation parent other => cases waits
    | wait waiter other =>
        cases waits
        exact targets.below_next member

theorem Targets.withdrawn {kernel : Kernel E} {outer : List PendingCall} {parent : Option Pid}
    {cause : ExecError} (targets : Targets history ⟨kernel, .creation parent pid :: outer⟩)
    (complete : ∀ other, (kernel.abandon pid).1.table.stateOf? other ≠ some .embryo)
    (withdraws : moment.happening = .withdrawn parent pid cause) :
    Targets (history ++ [moment]) ⟨(kernel.abandon pid).1, outer⟩ := by
  have same : ∀ other, hasExited (history ++ [moment]) other = hasExited history other := by
    intro other
    simp [hasExited_snoc, Moment.ends, Moment.launches, withdraws]
  rcases List.pairwise_cons.mp targets.inside with ⟨older, inside⟩
  have different : ∀ {waiter target}, .wait waiter target ∈ outer → pid ≠ target := by
    rintro waiter target member rfl
    have smaller := older (.wait waiter pid) member pid pid rfl rfl
    omega
  refine ⟨complete, ?_, ?_, ?_, inside⟩
  · intro other exited
    rw [same] at exited
    simp only [Kernel.fst_abandon, ProcessTable.stateOf?_withdraw]
    split
    · simp
    · exact targets.stopped exited
  · intro waiter target member alive
    rw [same] at alive
    simp only [Kernel.fst_abandon, ProcessTable.stateOf?_withdraw,
      ProcessTable.parentOf?_withdraw, if_neg (different member)]
    exact targets.child (List.mem_cons_of_mem _ member) alive
  · intro waiter target member
    simp only [Kernel.fst_abandon]
    apply ProcessTable.lt_nextPid_withdraw (different member)
    exact targets.below_next (List.mem_cons_of_mem _ member)

theorem Targets.suspended {outer : List PendingCall} {waiters : WaitQueue}
    (targets : Targets history activity) (sound : activity.Sound)
    (looks : activity.Looks waiter target outer)
    (child : activity.kernel.table.IsChild waiter target)
    (running : activity.kernel.table.stateOf? target = some .running)
    (suspends : moment.happening = .suspended waiter target) :
    Targets (history ++ [moment])
      ⟨{ activity.kernel with waiters := waiters }, .wait waiter target :: outer⟩ := by
  have before : Targets (history ++ [moment])
      ⟨{ activity.kernel with waiters := waiters }, outer⟩ := by
    refine targets.returned rfl looks.sublist ?_
    intro pid
    simp [hasExited_snoc, Moment.ends, Moment.launches, suspends]
  refine ⟨before.no_embryo, before.stopped, ?_, ?_, ?_⟩
  · intro other pid member alive
    rcases List.mem_cons.mp member with same | called
    · cases same
      exact ⟨running, child.2⟩
    · exact before.child called alive
  · intro other pid member
    rcases List.mem_cons.mp member with same | called
    · cases same
      rcases ProcessTable.stateOf?_eq_some_iff.mp running with ⟨record, present, _⟩
      exact sound.wellFormed.below_next present
    · exact before.below_next called
  · apply List.pairwise_cons.mpr
    refine ⟨?_, before.inside⟩
    intro call member pid other created
    cases created

theorem Targets.collected {outer : List PendingCall} {waiters : WaitQueue}
    {termination : Termination} (targets : Targets history activity)
    (looks : activity.Looks waiter target outer)
    (ended : activity.kernel.table.stateOf? target = some (.exited termination))
    (joins : moment.happening = .joined waiter target (.ok termination)) :
    Targets (history ++ [moment])
      ⟨{ activity.kernel with
          table := activity.kernel.table.collected waiter target
          waiters := waiters }, outer⟩ := by
  have same : ∀ pid, hasExited (history ++ [moment]) pid = hasExited history pid := by
    intro pid
    simp [hasExited_snoc, Moment.ends, Moment.launches, joins]
  refine ⟨?_, ?_, ?_, ?_, targets.inside.sublist looks.sublist⟩
  · intro pid
    simp only [ProcessTable.stateOf?_collected]
    split
    · simp
    · exact targets.no_embryo pid
  · intro pid exited
    rw [same] at exited
    simp only [ProcessTable.stateOf?_collected]
    split
    · simp
    · exact targets.stopped exited
  · intro other pid member alive
    rw [same] at alive
    rcases targets.child (looks.mem_pending member) alive with ⟨running, named⟩
    have different : target ≠ pid := by
      rintro rfl
      rw [ended] at running
      cases running
    simp only [ProcessTable.stateOf?_collected, ProcessTable.parentOf?_collected,
      if_neg different]
    exact ⟨running, named⟩
  · intro other pid member
    exact targets.below_next (looks.mem_pending member)

theorem Targets.departed {kernel : Kernel E} {pending : List PendingCall} {status : Option Int32}
    (targets : Targets history ⟨kernel, pending⟩)
    (complete : ∀ other, (kernel.departed pid status).table.stateOf? other ≠ some .embryo)
    (exited : ∀ other, hasExited (history ++ [moment]) other = true ↔
      pid = other ∨ hasExited history other = true) :
    Targets (history ++ [moment]) ⟨kernel.departed pid status, pending⟩ := by
  refine ⟨complete, ?_, ?_, targets.below_next, targets.inside⟩
  · intro other ended
    simp only [Kernel.departed, ProcessTable.stateOf?_terminated]
    by_cases same : pid = other
    · cases kernel.table.stateOf? other <;> simp [same]
    · rw [if_neg same]
      rcases (exited other).mp ended with here | before
      · exact absurd here same
      · exact targets.stopped before
  · intro waiter target member alive
    rw [← Bool.not_eq_true, exited, not_or, Bool.not_eq_true] at alive
    simp only [Kernel.departed, ProcessTable.stateOf?_terminated,
      ProcessTable.parentOf?_terminated, if_neg alive.1]
    exact targets.child member alive.2

theorem IsStep.targets (step : activity.IsStep moment) (sound : activity.Sound)
    (targets : Targets history activity) : Targets (history ++ [moment]) moment.after := by
  have complete := step.2.no_embryo targets.no_embryo
  rcases moment with ⟨happening, effects, before, after⟩
  rcases step with ⟨rfl, step⟩
  simp only at step complete
  generalize signals effects = told at step
  cases step with
  | refused refuses =>
      refine targets.returned rfl (List.Sublist.refl _) ?_
      exact hasExited_snoc_of_quiet (fun _ => rfl) fun _ => rfl
  | launched inRange known built => exact targets.launched complete rfl
  | created =>
      refine targets.returned rfl (List.sublist_cons_self _ _) ?_
      exact hasExited_snoc_of_quiet (fun _ => rfl) fun _ => rfl
  | withdrawn => exact targets.withdrawn complete rfl
  | suspended looks child unfinished =>
      have running := unfinished.resolve_left (targets.no_embryo _)
      exact targets.suspended sound looks child running rfl
  | turnedDown looks stranger =>
      refine targets.returned rfl looks.sublist ?_
      exact hasExited_snoc_of_quiet (fun _ => rfl) fun _ => rfl
  | collected looks child ended => exact targets.collected looks ended rfl
  | givenUp =>
      refine targets.returned rfl (List.sublist_cons_self _ _) ?_
      exact hasExited_snoc_of_quiet (fun _ => rfl) fun _ => rfl
  | exitIgnored idle =>
      exact targets.returned rfl (List.Sublist.refl _) (hasExited_snoc_of_idle idle rfl)
  | departed running =>
      exact targets.departed complete (hasExited_snoc_of_running running rfl)
  | haltGranted last =>
      refine targets.returned rfl (List.Sublist.refl _) ?_
      exact hasExited_snoc_of_quiet (fun _ => rfl) fun _ => rfl
  | haltRefused busy =>
      refine targets.returned rfl (List.Sublist.refl _) ?_
      exact hasExited_snoc_of_quiet (fun _ => rfl) fun _ => rfl

/-! ### The waiters of running processes -/

/-- The queue holds the callers of suspended joins whose target runs. -/
structure Registered (history : List (Moment E)) (activity : Activity E) : Prop where
  queued_iff : ∀ {waiter target}, waiter ∈ activity.kernel.waiters.waitersOf target ↔
    .wait waiter target ∈ activity.pending ∧ hasExited history target = false ∧
      attends history waiter target = true
  /-- Only the joins of a process that was collected itself may be missing. -/
  attended : ∀ {waiter target}, .wait waiter target ∈ activity.pending →
    hasExited history target = false → activity.kernel.table.contains waiter = true →
      attends history waiter target = true
  tidy : activity.kernel.waiters.Tidy

theorem Looks.mem_wait_iff {other pid : Pid} {outer : List PendingCall}
    (looks : activity.Looks waiter target outer) (different : ¬(target = pid ∧ waiter = other)) :
    .wait other pid ∈ activity.pending ↔ .wait other pid ∈ outer := by
  rcases looks with pending | pending
  · rw [pending]
  · simp only [pending, List.mem_cons, PendingCall.wait.injEq, or_iff_right_iff_imp]
    rintro ⟨rfl, rfl⟩
    exact absurd ⟨rfl, rfl⟩ different

/-- Neither the queue nor the suspended joins change, and nobody that they concern comes or goes. -/
theorem Registered.unaffected (registered : Registered history activity)
    (waiters : next.kernel.waiters = activity.kernel.waiters)
    (calls : ∀ {waiter target}, .wait waiter target ∈ next.pending ↔
      .wait waiter target ∈ activity.pending)
    (exited : ∀ {waiter target}, .wait waiter target ∈ activity.pending →
      hasExited (history ++ [moment]) target = hasExited history target)
    (known : ∀ {waiter target}, .wait waiter target ∈ activity.pending →
      hasExited history target = false → next.kernel.table.contains waiter = true →
        activity.kernel.table.contains waiter = true)
    (same : ∀ waiter target,
      attends (history ++ [moment]) waiter target = attends history waiter target) :
    Registered (history ++ [moment]) next := by
  refine ⟨?_, ?_, ?_⟩
  · intro waiter target
    rw [waiters, registered.queued_iff, calls, same]
    apply and_congr_right
    intro member
    rw [exited member]
  · intro waiter target member alive present
    have member := calls.mp member
    rw [exited member] at alive
    rw [same]
    exact registered.attended member alive (known member alive present)
  · rw [waiters]
    exact registered.tidy

theorem Registered.unmoved (registered : Registered history activity)
    (kernel : next.kernel = activity.kernel)
    (calls : ∀ {waiter target}, .wait waiter target ∈ next.pending ↔
      .wait waiter target ∈ activity.pending)
    (exited : ∀ pid, hasExited (history ++ [moment]) pid = hasExited history pid)
    (same : ∀ waiter target,
      attends (history ++ [moment]) waiter target = attends history waiter target) :
    Registered (history ++ [moment]) next := by
  apply registered.unaffected (congrArg Kernel.waiters kernel) calls
  · intro waiter target member
    exact exited target
  · intro waiter target member alive present
    rw [kernel] at present
    exact present
  · exact same

theorem attends_snoc_of_quiet (suspends : ∀ waiter target, moment.suspends waiter target = false)
    (answers : ∀ waiter target, moment.answers waiter target = false) (waiter target : Pid) :
    attends (history ++ [moment]) waiter target = attends history waiter target := by
  simp [attends_snoc, suspends, answers]

theorem Registered.suspended {outer : List PendingCall} (registered : Registered history activity)
    (looks : activity.Looks waiter target outer) (alive : hasExited history target = false)
    (suspends : moment.happening = .suspended waiter target) :
    Registered (history ++ [moment])
      ⟨{ activity.kernel with waiters := activity.kernel.waiters.add target waiter },
        .wait waiter target :: outer⟩ := by
  have exited : ∀ pid, hasExited (history ++ [moment]) pid = hasExited history pid := by
    intro pid
    simp [hasExited_snoc, Moment.ends, Moment.launches, suspends]
  have attended : ∀ other pid, attends (history ++ [moment]) other pid = true ↔
      (target = pid ∧ waiter = other) ∨ attends history other pid = true := by
    intro other pid
    simp [attends_snoc, Moment.suspends, Moment.answers, suspends, and_comm]
  refine ⟨?_, ?_, registered.tidy.add⟩
  · intro other pid
    rw [WaitQueue.mem_add, registered.queued_iff, exited, attended]
    by_cases same : target = pid ∧ waiter = other
    · rcases same with ⟨rfl, rfl⟩
      simp [alive]
    · have call : PendingCall.wait other pid ≠ .wait waiter target := by
        simpa [and_comm, eq_comm] using same
      rw [looks.mem_wait_iff same]
      simp [same, call]
  · intro other pid member running present
    rw [exited] at running
    rw [attended]
    by_cases same : target = pid ∧ waiter = other
    · exact Or.inl same
    · right
      have call : PendingCall.wait other pid ≠ .wait waiter target := by
        simpa [and_comm, eq_comm] using same
      rw [List.mem_cons, or_iff_right call] at member
      exact registered.attended (looks.mem_pending member) running present

theorem Registered.answered {outer : List PendingCall} {result : Except JoinError Termination}
    (registered : Registered history activity) (looks : activity.Looks waiter target outer)
    (pending : next.pending = outer)
    (waiters : next.kernel.waiters =
      (activity.kernel.waiters.add target waiter).remove target waiter)
    (known : ∀ other, next.kernel.table.contains other = true →
      activity.kernel.table.contains other = true)
    (gone : .wait waiter target ∈ activity.pending → hasExited history target = false →
      activity.kernel.table.contains waiter = false)
    (answers : moment.happening = .joined waiter target result) :
    Registered (history ++ [moment]) next := by
  have exited : ∀ pid, hasExited (history ++ [moment]) pid = hasExited history pid := by
    intro pid
    simp [hasExited_snoc, Moment.ends, Moment.launches, answers]
  have attended : ∀ other pid, attends (history ++ [moment]) other pid = true ↔
      attends history other pid = true ∧ ¬(target = pid ∧ waiter = other) := by
    intro other pid
    simp only [attends_snoc, Moment.suspends, Moment.answers, answers, reduceCtorEq, decide_false,
      Bool.false_or, Bool.and_eq_true, Bool.not_eq_true', decide_eq_false_iff_not]
  refine ⟨?_, ?_, ?_⟩
  · intro other pid
    rw [waiters, pending, WaitQueue.mem_remove, WaitQueue.mem_add, registered.queued_iff, exited,
      attended]
    by_cases same : target = pid ∧ waiter = other
    · simp [same]
    · rw [looks.mem_wait_iff same]
      simp [same]
  · intro other pid member alive present
    rw [pending] at member
    rw [exited] at alive
    rw [attended]
    have before := looks.mem_pending member
    have present := known other present
    refine ⟨registered.attended before alive present, ?_⟩
    rintro ⟨rfl, rfl⟩
    rw [gone before alive] at present
    cases present
  · rw [waiters]
    exact registered.tidy.add.remove

theorem Registered.departed {kernel : Kernel E} {pending : List PendingCall}
    {status : Option Int32} (registered : Registered history ⟨kernel, pending⟩)
    (exited : ∀ other, hasExited (history ++ [moment]) other = true ↔
      pid = other ∨ hasExited history other = true)
    (same : ∀ waiter target,
      attends (history ++ [moment]) waiter target = attends history waiter target) :
    Registered (history ++ [moment]) ⟨kernel.departed pid status, pending⟩ := by
  have alive : ∀ {other}, hasExited (history ++ [moment]) other = false ↔
      ¬pid = other ∧ hasExited history other = false := by
    intro other
    rw [← Bool.not_eq_true, exited, not_or, Bool.not_eq_true]
  refine ⟨?_, ?_, registered.tidy.erase⟩
  · intro waiter target
    have before := @registered.queued_iff waiter target
    simp only [Kernel.departed, WaitQueue.waitersOf_takeAll, alive, same]
    by_cases ended : pid = target
    · simp [ended]
    · simpa [ended] using before
  · intro waiter target member running present
    simp only [Kernel.departed, ProcessTable.contains_terminated] at present
    rw [same]
    exact registered.attended member (alive.mp running).2 present

theorem IsStep.registered (step : activity.IsStep moment) (sound : activity.Sound)
    (targets : Targets history activity) (registered : Registered history activity)
    (patient : moment.happening.givesUp = false) :
    Registered (history ++ [moment]) moment.after := by
  have complete := step.2.no_embryo targets.no_embryo
  rcases moment with ⟨happening, effects, before, after⟩
  rcases step with ⟨rfl, step⟩
  simp only at step patient complete
  generalize signals effects = told at step
  cases step with
  | refused refuses =>
      refine registered.unmoved rfl Iff.rfl ?_ ?_
      · exact hasExited_snoc_of_quiet (fun _ => rfl) fun _ => rfl
      · exact attends_snoc_of_quiet (fun _ _ => rfl) fun _ _ => rfl
  | launched inRange known built =>
      rename_i kernel pending parent name arguments entry space loader
      refine registered.unaffected rfl ?_ ?_ ?_ ?_
      · simp
      · intro waiter target member
        have different := Pid.ne_of_lt (targets.below_next member)
        simp [hasExited_snoc, Moment.ends, Moment.launches, Ne.symm different]
      · intro waiter target member alive present
        have named := (targets.child member alive).2
        have different : waiter ≠ ⟨kernel.table.nextPid⟩ := by
          rintro rfl
          exact sound.wellFormed.parentOf?_ne_nextPid target named
        simpa [Kernel.launched, ProcessTable.contains_activated, ProcessTable.contains_entered,
          different] using present
      · exact attends_snoc_of_quiet (fun _ _ => rfl) fun _ _ => rfl
  | created =>
      refine registered.unmoved rfl ?_ ?_ ?_
      · simp
      · exact hasExited_snoc_of_quiet (fun _ => rfl) fun _ => rfl
      · exact attends_snoc_of_quiet (fun _ _ => rfl) fun _ _ => rfl
  | withdrawn =>
      apply registered.unaffected
      · rw [Kernel.fst_abandon]
      · simp
      · intro waiter target member
        exact hasExited_snoc_of_quiet (fun _ => rfl) (fun _ => rfl) target
      · intro waiter target member alive present
        rw [Kernel.fst_abandon] at present
        exact (ProcessTable.contains_withdraw.mp present).2
      · exact attends_snoc_of_quiet (fun _ _ => rfl) fun _ _ => rfl
  | suspended looks child unfinished =>
      have running := unfinished.resolve_left (targets.no_embryo _)
      exact registered.suspended looks (targets.hasExited_of_running running) rfl
  | turnedDown looks stranger =>
      refine registered.answered looks rfl rfl (fun _ present => present) ?_ rfl
      -- The target of a suspended join is a child as long as it runs, so the caller is no more.
      intro member alive
      rw [← Bool.not_eq_true]
      intro present
      exact stranger ⟨present, (targets.child member alive).2⟩
  | collected looks child ended =>
      refine registered.answered looks rfl rfl ?_ ?_ rfl
      · intro other present
        exact (ProcessTable.contains_collected.mp present).2
      · intro member alive
        have running := (targets.child member alive).1
        rw [ended] at running
        cases running
  | givenUp => cases patient
  | exitIgnored idle =>
      refine registered.unmoved rfl Iff.rfl ?_ ?_
      · exact hasExited_snoc_of_idle idle rfl
      · exact attends_snoc_of_quiet (fun _ _ => rfl) fun _ _ => rfl
  | departed running =>
      apply registered.departed
      · exact hasExited_snoc_of_running running rfl
      · exact attends_snoc_of_quiet (fun _ _ => rfl) fun _ _ => rfl
  | haltGranted last =>
      refine registered.unmoved rfl Iff.rfl ?_ ?_
      · exact hasExited_snoc_of_quiet (fun _ => rfl) fun _ => rfl
      · exact attends_snoc_of_quiet (fun _ _ => rfl) fun _ _ => rfl
  | haltRefused busy =>
      refine registered.unmoved rfl Iff.rfl ?_ ?_
      · exact hasExited_snoc_of_quiet (fun _ => rfl) fun _ => rfl
      · exact attends_snoc_of_quiet (fun _ _ => rfl) fun _ _ => rfl

theorem Steps.registered {prior : List (Moment E)} (steps : Steps activity history last)
    (sound : activity.Sound) (targets : Targets prior activity)
    (registered : Registered prior activity)
    (patient : ∀ moment ∈ history, moment.happening.givesUp = false) :
    Targets (prior ++ history) last ∧ Registered (prior ++ history) last := by
  induction steps generalizing prior with
  | nil =>
      rw [List.append_nil]
      exact ⟨targets, registered⟩
  | cons step rest ih =>
      rename_i activity last first history
      rw [List.append_cons]
      apply ih (step.sound sound) (step.targets sound targets)
      · exact step.registered sound targets registered (patient first List.mem_cons_self)
      · intro moment later
        exact patient moment (List.mem_cons_of_mem first later)

/-! ### Wakes -/

theorem woken_signals (effects : List Effect) : woken (signals effects) = woken effects := by
  induction effects with
  | nil => rfl
  | cons effect effects ih =>
      cases effect with
      | log record => exact ih
      | wake pid => exact congrArg (pid :: ·) ih
      | powerOff reason => exact ih

theorem woken_departureSignals (kernel : Kernel E) (pid : Pid) :
    woken (kernel.departureSignals pid) = kernel.waiters.waitersOf pid := by
  have waking : ∀ pids : List Pid, woken (pids.map Effect.wake) = pids := by
    intro pids
    simp [woken, List.filterMap_map]
  simp only [Kernel.departureSignals, woken, List.filterMap_append]
  rw [← woken, waking]
  split <;> simp

/-- What the wait queue has to do with the joins that are suspended after a history. -/
structure WakesJoiners (history : List (Moment E)) (activity : Activity E) : Prop where
  queued_iff : ∀ waiter target, waiter ∈ activity.kernel.waiters.waitersOf target ↔
    .wait waiter target ∈ activity.pending ∧ hasExited history target = false ∧
      attends history waiter target = true
  /-- A join of the pair can only have returned since when the waiter itself is gone. -/
  attended : ∀ {waiter target}, .wait waiter target ∈ activity.pending →
    hasExited history target = false → activity.kernel.table.contains waiter = true →
      attends history waiter target = true
  parent_eq : ∀ {waiter target}, waiter ∈ activity.kernel.waiters.waitersOf target →
    activity.kernel.table.parentOf? target = some waiter
  countOn_le : ∀ target, activity.kernel.waiters.countOn target ≤ 1
  /-- The end of a process wakes its parent if a join of the parent is suspended on it. -/
  wakes : ∀ {parent pid}, activity.kernel.table.stateOf? pid = some .running →
    activity.kernel.table.parentOf? pid = some parent → .wait parent pid ∈ activity.pending →
      attends history parent pid = true →
        ∀ status, woken (activity.kernel.exit pid status).2 = [parent]
  wakes_nobody : ∀ {pid}, activity.kernel.table.stateOf? pid = some .running →
    (∀ parent, activity.kernel.table.parentOf? pid = some parent →
      .wait parent pid ∈ activity.pending → attends history parent pid = false) →
        ∀ status, woken (activity.kernel.exit pid status).2 = []
  empty : activity.pending = [] → activity.kernel.waiters = ∅

theorem woken_exit (wellFormed : activity.kernel.table.WellFormed)
    (running : activity.kernel.table.stateOf? pid = some .running) (status : Option Int32) :
    woken (activity.kernel.exit pid status).2 = activity.kernel.waiters.waitersOf pid := by
  rcases Kernel.exit_cases wellFormed pid status with ⟨idle, _⟩ | ⟨_, _, told⟩
  · exact absurd running idle
  · rw [← woken_signals, told, woken_departureSignals]

theorem Registered.wakesJoiners (registered : Registered history activity)
    (targets : Targets history activity) (sound : activity.Sound) :
    WakesJoiners history activity := by
  have parent : ∀ {waiter target}, waiter ∈ activity.kernel.waiters.waitersOf target →
      activity.kernel.table.parentOf? target = some waiter := by
    intro waiter target queued
    rcases registered.queued_iff.mp queued with ⟨member, alive, _⟩
    exact (targets.child member alive).2
  -- The waiters of one process are all its parent, and each is entered once.
  have alone : ∀ {waiter target}, waiter ∈ activity.kernel.waiters.waitersOf target →
      activity.kernel.waiters.waitersOf target = [waiter] := by
    intro waiter target queued
    apply List.perm_singleton.mp
    rw [List.perm_ext_iff_of_nodup (registered.tidy.nodup target) (List.nodup_singleton waiter)]
    intro other
    rw [List.mem_singleton]
    constructor
    · intro also
      have same := (parent also).symm.trans (parent queued)
      cases same
      rfl
    · rintro rfl
      exact queued
  refine ⟨fun _ _ => registered.queued_iff, registered.attended, parent, ?_, ?_, ?_, ?_⟩
  · intro target
    unfold WaitQueue.countOn
    cases waiting : activity.kernel.waiters.waitersOf target with
    | nil => simp
    | cons waiter others =>
        have single := @alone waiter target (by simp [waiting])
        rw [← waiting, single]
        simp
  · intro creator pid running named member attended status
    have alive := targets.hasExited_of_running running
    rw [woken_exit sound.wellFormed running]
    exact alone (registered.queued_iff.mpr ⟨member, alive, attended⟩)
  · intro pid running unattended status
    rw [woken_exit sound.wellFormed running]
    apply List.eq_nil_iff_forall_not_mem.mpr
    intro waiter queued
    rcases registered.queued_iff.mp queued with ⟨member, _, attended⟩
    rw [unattended waiter (parent queued) member] at attended
    cases attended
  · intro quiet
    apply registered.tidy.eq_empty
    intro target
    apply List.eq_nil_iff_forall_not_mem.mpr
    intro waiter queued
    have member := (registered.queued_iff.mp queued).1
    rw [quiet] at member
    cases member

theorem targets_boot (config : KernelConfig) (registry : ImageRegistry E) :
    Targets [] (boot config registry) where
  no_embryo pid state := by cases state
  stopped exited := by cases exited
  child member := by cases member
  below_next member := by cases member
  inside := List.Pairwise.nil

theorem registered_boot (config : KernelConfig) (registry : ImageRegistry E) :
    Registered [] (boot config registry) where
  queued_iff := by
    intro waiter target
    constructor
    · intro queued
      cases queued
    · rintro ⟨member, _⟩
      cases member
  attended member := by cases member
  tidy := WaitQueue.tidy_empty

/--
In every session in which no suspended join is given up, a process waits in the queue exactly while
its join is suspended and the target runs, and an exit wakes the parent whose join is suspended and
nobody else. When no call is pending, the queue has no entries.
-/
theorem exit_wakes_joiner (config : KernelConfig) (registry : ImageRegistry E)
    (moves : List Move)
    (patient : ∀ moment ∈ ((boot config registry).run moves).1,
      moment.happening.givesUp = false) :
    WakesJoiners ((boot config registry).run moves).1 ((boot config registry).run moves).2 := by
  have sound := sound_boot config registry
  have steps := steps_run sound moves
  rcases steps.registered sound (targets_boot config registry) (registered_boot config registry)
    patient with ⟨targets, registered⟩
  exact registered.wakesJoiners targets (steps.sound sound)

/--
The second process joins its child twice, one join inside the other. Inside both it exits and is
collected, so that the inner join is turned down when it looks again.
-/
def collectedWhileSuspended : List Move :=
  [.spawn none "a.coff" [], .answer none, .spawn (some ⟨0⟩) "a.coff" [], .answer none,
    .spawn (some ⟨1⟩) "a.coff" [], .answer none, .join ⟨1⟩ ⟨2⟩, .join ⟨1⟩ ⟨2⟩,
    .exit ⟨1⟩ (some 0), .join ⟨0⟩ ⟨1⟩, .resume]

/-- The history of these moves and the activity that they lead to. -/
def suspendedTwice : List (Moment Unit) × Activity Unit :=
  (boot {} (.ofList [⟨"a.coff", 1, ()⟩])).run collectedWhileSuspended

theorem exit_wakes_joiner_after_collection :
    (∀ moment ∈ suspendedTwice.1, moment.happening.givesUp = false) ∧
      WakesJoiners suspendedTwice.1 suspendedTwice.2 := by
  have patient : ∀ moment ∈ suspendedTwice.1, moment.happening.givesUp = false := by
    decide +kernel
  exact ⟨patient, exit_wakes_joiner {} (.ofList [⟨"a.coff", 1, ()⟩]) collectedWhileSuspended
    patient⟩

/--
The outer join is suspended on a child that runs, and yet the queue does not hold its caller, and
the exit of the child wakes nobody.
-/
theorem suspended_join_is_not_queued :
    (∀ moment ∈ suspendedTwice.1, moment.happening.givesUp = false) ∧
      ¬(∀ waiter target, waiter ∈ suspendedTwice.2.kernel.waiters.waitersOf target ↔
        .wait waiter target ∈ suspendedTwice.2.pending ∧
          hasExited suspendedTwice.1 target = false) ∧
      suspendedTwice.2.kernel.table.stateOf? ⟨2⟩ = some .running ∧
      suspendedTwice.2.kernel.table.parentOf? ⟨2⟩ = some ⟨1⟩ ∧
      .wait ⟨1⟩ ⟨2⟩ ∈ suspendedTwice.2.pending ∧
      woken (suspendedTwice.2.kernel.exit ⟨2⟩ (some 0)).2 = [] := by
  refine ⟨by decide +kernel, ?_, by decide +kernel⟩
  intro same
  have unqueued : (⟨1⟩ : Pid) ∉ suspendedTwice.2.kernel.waiters.waitersOf ⟨2⟩ := by
    decide +kernel
  apply unqueued
  apply (same ⟨1⟩ ⟨2⟩).mpr
  decide +kernel

end Activity

end Lifecycle
