import Lifecycle.Proofs.OrderlyTraffic

/-!
# No wakeup is lost

A process that joins a child registers itself with the child, looks whether the child has ended and,
if it has not, is suspended until its token is set. The child ends, releases the registered processes
and sets their tokens one by one. This file proves that in orderly traffic, however these operations
interleave, a suspended process is always on its way to be woken: its token is set already, or its
child has not ended and will find it registered, or the exit of the child still has to release it or
to set its token.

Two facts are carried along. From its registration on, a joining process is registered, or released
and not yet woken, or woken; only its own later operations undo this. And a process is suspended only
on a child that has not ended at that moment, so the exit of the child releases those registered
afterwards.
-/

namespace Lifecycle

/-- The process has a record and has not ended. -/
def ProcessTable.Unfinished (table : ProcessTable) (pid : Pid) : Prop :=
  table.stateOf? pid = some .embryo ∨ table.stateOf? pid = some .running

namespace Stage

variable {E : Type}

/-- The joining process and its target, once it is registered. -/
def registration? : Stage E → Option (Pid × Pid)
  | .look caller target => some (caller, target)
  | .suspend caller target => some (caller, target)
  | _ => none

/-- The process has ended and has not released its waiters yet. -/
def releases? : Stage E → Option Pid
  | .unload caller _ _ => some caller
  | .release caller _ => some caller
  | _ => none

/-- The exit of `target` has released `waiter` and has not set its token yet. -/
def Wakes (target waiter : Pid) : Stage E → Prop
  | .wake caller waiting _ => caller = target ∧ waiter ∈ waiting
  | _ => False

/-- The process whose exit has begun. -/
def exiting? : Stage E → Option Pid
  | .unload caller _ _ => some caller
  | .release caller _ => some caller
  | .wake caller _ _ => some caller
  | _ => none

/-- The process that joins and its target, before the result is known. -/
def joining? : Stage E → Option (Pid × Pid)
  | .register caller target => some (caller, target)
  | .look caller target => some (caller, target)
  | .suspend caller target => some (caller, target)
  | _ => none

/-- The process that joins and its target, when the join is about to return. -/
def returning? : Stage E → Option (Pid × Pid)
  | .deregister caller target _ => some (caller, target)
  | _ => none

/-- A process goes on without having ended until its exit, unless it is taken back. -/
theorem Step.unfinished_cases {kernel last : Kernel E} {stage : Stage E} {next : Option (Stage E)}
    (step : Step kernel stage next last) (wellFormed : kernel.table.WellFormed)
    (supported : stage.Supported kernel.table) {pid : Pid} (others : stage.created? ≠ some pid)
    (unfinished : kernel.table.Unfinished pid) :
    last.table.Unfinished pid ∨ ∃ status departure, next = some (.unload pid status departure) := by
  rcases unfinished with embryo | running
  · exact Or.inl (Or.inl (step.embryo wellFormed others embryo))
  · by_cases ends : ∃ status, stage = .terminate pid status
    · rcases ends with ⟨status, rfl⟩
      cases step with
      | exitIgnored idle => exact absurd running idle
      | terminated present _ => exact Or.inr ⟨_, _, rfl⟩
    · left
      right
      apply step.running supported wellFormed _ _ running
      · intro status same
        exact ends ⟨status, same⟩
      · intro retracted
        apply others
        cases stage with
        | retract parent withdrawn cause => exact retracted
        | _ => cases retracted

end Stage

namespace Traffic

variable {E : Type} {traffic : Traffic E} {event : Event E} {others : List (Stage E)}
  {waiter target : Pid}

/-- An exit of `target` is going to set the token of `waiter`. -/
def Waking (traffic : Traffic E) (waiter target : Pid) : Prop :=
  ∃ stage ∈ traffic.calls, stage.Wakes target waiter

/-- The process was not forgotten since it registered. -/
def Registered (traffic : Traffic E) (waiter target : Pid) : Prop :=
  traffic.woken.contains waiter = true ∨
    waiter ∈ traffic.kernel.waiters.waitersOf target ∨ traffic.Waking waiter target

/-- The target has not ended, or its exit has not released its waiters, or the process was told. -/
def Alerted (traffic : Traffic E) (waiter target : Pid) : Prop :=
  traffic.kernel.table.Unfinished target ∨
    (∃ stage ∈ traffic.calls, stage.releases? = some target) ∨
      traffic.woken.contains waiter = true ∨ traffic.Waking waiter target

/-- The process is woken, will be released by its target's exit or is about to be woken by it. -/
inductive WakeupDue (traffic : Traffic E) (waiter target : Pid) : Prop
  | token (set : traffic.woken.contains waiter = true)
  | queued (unfinished : traffic.kernel.table.Unfinished target)
      (waiting : waiter ∈ traffic.kernel.waiters.waitersOf target)
  | releasing {stage : Stage E} (inProgress : stage ∈ traffic.calls)
      (releases : stage.releases? = some target)
      (waiting : waiter ∈ traffic.kernel.waiters.waitersOf target)
  | waking {remaining : Nat} {waiting : List Pid}
      (inProgress : .wake target waiting remaining ∈ traffic.calls) (released : waiter ∈ waiting)

theorem Registered.wakeupDue (registered : traffic.Registered waiter target)
    (alerted : traffic.Alerted waiter target) : traffic.WakeupDue waiter target := by
  have due : traffic.Waking waiter target → traffic.WakeupDue waiter target := by
    rintro ⟨stage, inProgress, wakes⟩
    cases stage with
    | wake caller waiting remaining =>
        rcases wakes with ⟨rfl, released⟩
        exact .waking inProgress released
    | _ => cases wakes
  rcases registered with set | waiting | waking
  · exact .token set
  · rcases alerted with unfinished | ⟨stage, inProgress, releases⟩ | set | waking
    · exact .queued unfinished waiting
    · exact .releasing inProgress releases waiting
    · exact .token set
    · exact due waking
  · exact due waking

/-! ### One operation -/

theorem Fair.woken_contains (fair : traffic.Fair event others)
    (awake : ∀ target, event.stage ≠ .suspend waiter target)
    (set : traffic.woken.contains waiter = true) : event.after.woken.contains waiter = true := by
  rw [fair.woken]
  unfold Stage.tokens
  split
  · rename_i caller target stage
    rw [PidMap.contains_erase, set]
    have different : caller ≠ waiter := by
      intro same
      subst same
      exact awake target stage
    simp [different]
  · simp [set]
  · exact set

/-- A process that was released is woken at last. -/
theorem Fair.waking (fair : traffic.Fair event others) (waking : traffic.Waking waiter target) :
    event.after.woken.contains waiter = true ∨ event.after.Waking waiter target := by
  rcases waking with ⟨stage, inProgress, wakes⟩
  rcases fair.mem_cases stage inProgress with same | other
  · rcases event with ⟨performed, next, effects, before, kernel, calls, woken⟩
    have step : performed.Step traffic.kernel next kernel := fair.step
    obtain rfl : calls = next.toList ++ others := fair.calls
    obtain rfl : woken = performed.tokens traffic.woken := fair.woken
    simp only at same
    subst stage
    cases step with
    | woke =>
        rename_i caller front waiting remaining
        rcases wakes with ⟨rfl, released⟩
        rcases List.mem_cons.mp released with rfl | rest
        · left
          simp [Stage.tokens]
        · right
          exact ⟨.wake caller waiting remaining, by simp, rfl, rest⟩
    | departed =>
        rcases wakes with ⟨_, released⟩
        cases released
    | _ => cases wakes
  · right
    refine ⟨stage, ?_, wakes⟩
    rw [fair.calls]
    exact List.mem_append_right _ other

/-- Only a process itself leaves the queue or loses its token. -/
theorem Fair.registered (fair : traffic.Fair event others)
    (awake : ∀ target, event.stage ≠ .suspend waiter target)
    (stays : ∀ target result, event.stage ≠ .deregister waiter target result)
    (registered : traffic.Registered waiter target) : event.after.Registered waiter target := by
  rcases registered with set | waiting | waking
  · exact Or.inl (fair.woken_contains awake set)
  · right
    rcases event with ⟨performed, next, effects, before, kernel, calls, woken⟩
    have step : performed.Step traffic.kernel next kernel := fair.step
    obtain rfl : calls = next.toList ++ others := fair.calls
    simp only
    cases step with
    | registered =>
        rename_i caller other
        left
        simp only [WaitQueue.waitersOf_add]
        split
        · rename_i added
          rw [← added.1] at waiting
          exact List.mem_append_left _ waiting
        · exact waiting
    | deregistered =>
        rename_i caller other result
        left
        simp only [WaitQueue.waitersOf_remove]
        split
        · rename_i same
          rw [← same] at waiting
          apply List.mem_filter.mpr
          refine ⟨waiting, ?_⟩
          rw [bne_iff_ne]
          intro same
          subst same
          exact stays other result rfl
        · exact waiting
    | released =>
        rename_i caller remaining
        simp only [WaitQueue.waitersOf_takeAll]
        split
        · rename_i same
          subst same
          right
          exact ⟨.wake caller (traffic.kernel.waiters.waitersOf caller) remaining, by simp, rfl,
            waiting⟩
        · exact Or.inl waiting
    | _ => exact Or.inl waiting
  · rcases fair.waking waking with set | waking
    · exact Or.inl set
    · exact Or.inr (Or.inr waking)

/-- A child ends only by its exit, which releases the waiters. -/
theorem Fair.alerted (fair : traffic.Fair event others) (wellFormed : traffic.kernel.table.WellFormed)
    (child : traffic.kernel.table.IsChild waiter target)
    (spares : event.stage.runner? ≠ some waiter)
    (registered : traffic.Registered waiter target) (alerted : traffic.Alerted waiter target) :
    event.after.Alerted waiter target := by
  have awake : ∀ target, event.stage ≠ .suspend waiter target := by
    intro target same
    rw [same] at spares
    exact spares rfl
  have told : (traffic.woken.contains waiter = true ∨ traffic.Waking waiter target) →
      event.after.Alerted waiter target := by
    rintro (set | waking)
    · exact Or.inr (Or.inr (Or.inl (fair.woken_contains awake set)))
    · exact Or.inr (Or.inr (fair.waking waking))
  rcases alerted with unfinished | ⟨stage, inProgress, releases⟩ | set | waking
  · have others : event.stage.created? ≠ some target := by
      intro created
      have parent := fair.supported.parentOf? created
      rw [child.2] at parent
      exact spares parent.symm
    rcases fair.step.unfinished_cases wellFormed fair.supported others unfinished with
      unfinished | ⟨status, departure, goesOn⟩
    · exact Or.inl unfinished
    · right
      left
      refine ⟨.unload target status departure, ?_, rfl⟩
      rw [fair.calls, goesOn]
      simp
  · rcases fair.mem_cases stage inProgress with same | other
    · rcases event with ⟨performed, next, effects, before, kernel, calls, woken⟩
      have step : performed.Step traffic.kernel next kernel := fair.step
      obtain rfl : calls = next.toList ++ others := fair.calls
      simp only at same
      subst stage
      cases step with
      | unloaded =>
          rename_i caller status departure
          cases releases
          exact Or.inr (Or.inl ⟨.release target departure.remaining, by simp, rfl⟩)
      | released =>
          rename_i caller remaining
          cases releases
          rcases registered with set | waiting | waking
          · exact told (Or.inl set)
          · right
            right
            right
            exact ⟨.wake target (traffic.kernel.waiters.waitersOf target) remaining, by simp, rfl,
              waiting⟩
          · exact told (Or.inr waking)
      | _ => cases releases
    · right
      left
      refine ⟨stage, ?_, releases⟩
      rw [fair.calls]
      exact List.mem_append_right _ other
  · exact told (Or.inl set)
  · exact told (Or.inr waking)

/-! ### Suspended processes -/

/-- Every process that joins another one will be woken when it has to be. -/
structure Watchful (traffic : Traffic E) : Prop where
  registered : ∀ stage ∈ traffic.calls, ∀ waiter target,
    stage.registration? = some (waiter, target) → traffic.Registered waiter target
  alerted : ∀ waiter target, .suspend waiter target ∈ traffic.calls →
    traffic.Alerted waiter target

theorem Fair.registered_next {next : Stage E} (fair : traffic.Fair event others)
    (watchful : traffic.Watchful) (goesOn : event.next = some next)
    (registers : next.registration? = some (waiter, target)) :
    event.after.Registered waiter target := by
  by_cases looks : event.stage = .look waiter target
  · apply fair.registered
    · intro other same
      rw [looks] at same
      cases same
    · intro other result same
      rw [looks] at same
      cases same
    · rcases fair.origin with present | ⟨call, begins⟩
      · apply watchful.registered event.stage present
        rw [looks]
        rfl
      · rw [looks] at begins
        cases call <;> cases begins
  · rcases event with ⟨performed, following, effects, before, kernel, calls, woken⟩
    have step : performed.Step traffic.kernel following kernel := fair.step
    simp only at goesOn looks
    subst following
    cases step with
    | registered =>
        rename_i caller other
        cases registers
        right
        left
        simp only [WaitQueue.waitersOf_add]
        split
        · simp
        · rename_i present
          simpa using present
    | unfinished child unfinished =>
        cases registers
        exact absurd rfl looks
    | retracted regains =>
        rcases Option.map_eq_some_iff.mp regains.symm with ⟨space, _, rfl⟩
        cases registers
    | _ => cases registers

theorem Fair.unfinished_of_suspend (fair : traffic.Fair event others)
    (goesOn : event.next = some (.suspend waiter target)) :
    event.after.kernel.table.Unfinished target := by
  rcases event with ⟨performed, following, effects, before, kernel, calls, woken⟩
  have step : performed.Step traffic.kernel following kernel := fair.step
  simp only at goesOn
  subst following
  cases step with
  | unfinished child unfinished => exact unfinished
  | retracted regains =>
      rcases Option.map_eq_some_iff.mp regains.symm with ⟨space, _, impossible⟩
      cases impossible

theorem Fair.watchful (fair : traffic.Fair event others) (consistent : traffic.Consistent)
    (watchful : traffic.Watchful) : event.after.Watchful := by
  have wellFormed := consistent.wellFormed
  -- A call of another process has a stage with this process as its runner.
  have elsewhere : ∀ stage ∈ others, ∀ waiter, stage.runner? = some waiter →
      event.stage.runner? ≠ some waiter := by
    intro stage member waiter runs
    exact (fair.apart stage member).symm.runners waiter runs
  refine ⟨?_, ?_⟩
  · intro stage member waiter target registers
    rw [fair.calls] at member
    rcases List.mem_append.mp member with goesOn | other
    · exact fair.registered_next watchful (Option.mem_toList.mp goesOn) registers
    · have runs : stage.runner? = some waiter := by
        cases stage <;> cases registers <;> rfl
      have different := elsewhere stage other waiter runs
      apply fair.registered
      · intro target same
        rw [same] at different
        exact different rfl
      · intro target result same
        rw [same] at different
        exact different rfl
      · exact watchful.registered stage (fair.mem_calls stage other) waiter target registers
  · intro waiter target member
    rw [fair.calls] at member
    rcases List.mem_append.mp member with goesOn | other
    · left
      exact fair.unfinished_of_suspend (Option.mem_toList.mp goesOn)
    · have present := fair.mem_calls _ other
      apply fair.alerted wellFormed
      · exact (consistent.supported _ present).child waiter target rfl
      · exact elsewhere _ other waiter rfl
      · exact watchful.registered _ present waiter target rfl
      · exact watchful.alerted waiter target present

theorem watchful_boot (config : KernelConfig) (registry : ImageRegistry E) :
    (boot config registry).Watchful := by
  refine ⟨?_, ?_⟩
  · intro stage member
    cases member
  · intro waiter target member
    cases member

/-! ### Joins that had to wait -/

/-- The process looked and found that its child had ended. -/
def Collected (history : List (Event E)) (waiter target : Pid) (termination : Termination) : Prop :=
  ∃ event ∈ history, event.stage = .look waiter target ∧
    event.before.kernel.table.stateOf? target = some (.exited termination)

/-- The join of a child is in progress, or the child is collected and the join is about to return. -/
def Awaiting (prior : List (Event E)) (traffic : Traffic E) (waiter target : Pid) : Prop :=
  (∃ stage ∈ traffic.calls, stage.joining? = some (waiter, target)) ∧
      traffic.kernel.table.IsChild waiter target ∨
    ∃ termination, .deregister waiter target (.ok termination) ∈ traffic.calls ∧
      Collected prior waiter target termination

theorem Fair.awaiting {prior : List (Event E)} (fair : traffic.Fair event others)
    (consistent : traffic.Consistent)
    (stays : event.stage.returning? ≠ some (waiter, target))
    (awaiting : Awaiting prior traffic waiter target) :
    Awaiting (prior ++ [event]) event.after waiter target := by
  rcases awaiting with ⟨⟨stage, inProgress, joins⟩, child⟩ | ⟨termination, inProgress, collected⟩
  · rcases fair.mem_cases stage inProgress with same | other
    -- The join itself goes on, and only by collecting does it lose the child.
    · rcases event with ⟨performed, next, effects, before, kernel, calls, woken⟩
      have step : performed.Step traffic.kernel next kernel := fair.step
      obtain rfl : calls = next.toList ++ others := fair.calls
      obtain rfl : before = traffic := fair.before
      simp only at same
      subst stage
      cases step with
      | registered =>
          cases joins
          exact Or.inl ⟨⟨.look waiter target, by simp, rfl⟩, child⟩
      | unfinished _ _ =>
          cases joins
          exact Or.inl ⟨⟨.suspend waiter target, by simp, rfl⟩, child⟩
      | resumed =>
          cases joins
          exact Or.inl ⟨⟨.register waiter target, by simp, rfl⟩, child⟩
      | turnedDown stranger =>
          cases joins
          exact absurd child stranger
      | collected _ ended =>
          rename_i termination _
          cases joins
          exact Or.inr ⟨termination, by simp, _, List.mem_append_right _ List.mem_cons_self, rfl,
            ended⟩
      | _ => cases joins
    · have runs : stage.runner? = some waiter := by
        cases stage <;> cases joins <;> rfl
      have spares : event.stage.Spares waiter := by
        refine ⟨(fair.apart stage other).symm.runners waiter runs, ?_⟩
        intro retracted
        exact fair.unattended waiter retracted stage other runs
      have running := (consistent.supported stage inProgress).running waiter runs
      left
      refine ⟨⟨stage, ?_, joins⟩, ?_⟩
      · rw [fair.calls]
        exact List.mem_append_right _ other
      · exact fair.step.isChild fair.supported consistent.wellFormed spares running child
  · right
    refine ⟨termination, ?_, ?_⟩
    · rcases fair.mem_cases _ inProgress with same | other
      · rw [← same] at stays
        exact absurd rfl stays
      · rw [fair.calls]
        exact List.mem_append_right _ other
    · rcases collected with ⟨looked, member, looks⟩
      exact ⟨looked, List.mem_append_left _ member, looks⟩

/-- Such a join returns with the way in which the child ended. -/
theorem Fair.returns_ok {prior : List (Event E)} {result : Except JoinError Termination}
    (fair : traffic.Fair event others) (returns : event.stage = .deregister waiter target result)
    (awaiting : Awaiting prior traffic waiter target) :
    ∃ termination, result = .ok termination ∧ Collected prior waiter target termination := by
  have runs : event.stage.runner? = some waiter := by
    rw [returns]
    rfl
  rcases awaiting with ⟨⟨stage, inProgress, joins⟩, _⟩ | ⟨termination, inProgress, collected⟩
  · rcases fair.mem_cases stage inProgress with rfl | other
    · rw [returns] at joins
      cases joins
    · have same : stage.runner? = some waiter := by
        cases stage <;> cases joins <;> rfl
      exact absurd same ((fair.apart stage other).runners waiter runs)
  · rcases fair.mem_cases _ inProgress with same | other
    · rw [returns] at same
      cases same
      exact ⟨termination, rfl, collected⟩
    · exact absurd rfl ((fair.apart _ other).runners waiter runs)

/-- The join has not returned in this history. -/
def Unreturned (history : List (Event E)) (waiter target : Pid) : Prop :=
  ∀ event ∈ history, event.stage.returning? ≠ some (waiter, target)

instance (history : List (Event E)) (waiter target : Pid) :
    Decidable (Unreturned history waiter target) :=
  inferInstanceAs (Decidable (∀ event ∈ history, _))

/-- A join that was suspended once is in progress until it returns with success. -/
structure Awaited (history : List (Event E)) (traffic : Traffic E) (waiter target : Pid) :
    Prop where
  awaiting : Unreturned history waiter target → Awaiting history traffic waiter target
  returns_ok : ∀ {during returned rest result}, history = during ++ returned :: rest →
    Unreturned during waiter target → returned.stage = .deregister waiter target result →
      ∃ termination, result = .ok termination ∧ Collected during waiter target termination

theorem Fair.awaited {prior : List (Event E)} (fair : traffic.Fair event others)
    (consistent : traffic.Consistent) (awaited : Awaited prior traffic waiter target) :
    Awaited (prior ++ [event]) event.after waiter target := by
  refine ⟨?_, ?_⟩
  · intro unreturned
    apply fair.awaiting consistent
    · exact unreturned event (by simp)
    · apply awaited.awaiting
      intro earlier member
      exact unreturned earlier (List.mem_append_left _ member)
  · intro during returned rest result split unreturned returns
    rcases append_singleton_eq_append_cons split with ⟨rfl, rfl⟩ | ⟨shorter, before⟩
    · exact fair.returns_ok returns (awaited.awaiting unreturned)
    · exact awaited.returns_ok before unreturned returns

theorem Consistent.awaited {schedule : List Turn} (consistent : traffic.Consistent)
    (orderly : traffic.Orderly schedule) (suspended : .suspend waiter target ∈ traffic.calls) :
    Awaited (traffic.run schedule).1 (traffic.run schedule).2 waiter target := by
  have start : Awaited [] traffic waiter target := by
    refine ⟨?_, ?_⟩
    · intro _
      exact Or.inl ⟨⟨_, suspended, rfl⟩, (consistent.supported _ suspended).child waiter target rfl⟩
    · intro during returned rest result split
      simp at split
  exact (orderly_induction (fun prior traffic => Awaited prior traffic waiter target) [] orderly
    consistent start (fun consistent awaited fair => fair.awaited consistent awaited)).2

theorem orderly_run {schedule : List Turn} (config : KernelConfig) (registry : ImageRegistry E)
    (orderly : (boot config registry).Orderly schedule) :
    ((boot config registry).run schedule).2.Consistent ∧
      ((boot config registry).run schedule).2.Watchful :=
  orderly_induction (fun _ traffic => traffic.Watchful) [] orderly
    (consistent_boot config registry) (watchful_boot config registry)
    (fun consistent watchful fair => fair.watchful consistent watchful)

/--
In orderly traffic every suspended process is woken already or on its way to be woken by its target.
So once the exit of the target is over, the process is awake; and a join that was suspended ends, if
it ends, with the way in which its target did.
-/
theorem no_wakeup_is_lost (config : KernelConfig) (registry : ImageRegistry E)
    (schedule : List Turn) (orderly : (boot config registry).Orderly schedule) :
    let traffic := ((boot config registry).run schedule).2
    ∀ waiter target, .suspend waiter target ∈ traffic.calls →
      traffic.WakeupDue waiter target ∧
      ((∃ termination, traffic.kernel.table.stateOf? target = some (.exited termination)) →
        (∀ stage ∈ traffic.calls, stage.exiting? ≠ some target) →
          traffic.woken.contains waiter = true) ∧
      ∀ later during returned rest result, traffic.Orderly later →
        (traffic.run later).1 = during ++ returned :: rest → Unreturned during waiter target →
          returned.stage = .deregister waiter target result →
            ∃ termination, result = .ok termination ∧
              Collected during waiter target termination := by
  intro traffic waiter target suspended
  rcases orderly_run config registry orderly with ⟨consistent, watchful⟩
  have due : traffic.WakeupDue waiter target :=
    (watchful.registered _ suspended waiter target rfl).wakeupDue
      (watchful.alerted waiter target suspended)
  refine ⟨due, ?_, ?_⟩
  · rintro ⟨termination, ended⟩ finished
    cases due with
    | token set => exact set
    | queued unfinished waiting =>
        rcases unfinished with state | state
        · rw [ended] at state
          cases state
        · rw [ended] at state
          cases state
    | releasing inProgress releases waiting =>
        rename_i stage
        apply absurd _ (finished stage inProgress)
        cases stage <;> cases releases <;> rfl
    | waking inProgress released => exact absurd rfl (finished _ inProgress)
  · intro later during returned rest result orderlyLater split unreturned returns
    exact (consistent.awaited orderlyLater suspended).returns_ok split unreturned returns

/-- The first process is suspended on its child, which has just ended. -/
def suspendedDuringExit : List Turn :=
  [.begin (.spawn none "a.coff" []), .advance 0 none, .advance 0 none, .advance 0 none,
    .begin (.spawn (some ⟨0⟩) "a.coff" []), .advance 0 none, .advance 0 none, .advance 0 none,
    .begin (.join ⟨0⟩ ⟨1⟩), .advance 0 none, .begin (.exit ⟨1⟩ (some 7))]

/-- The waiting process runs again too early, and the exit wakes it after it has looked. -/
def wokenTooLate : List Turn :=
  [.advance 1 none, .advance 0 none, .advance 0 none, .advance 1 none, .advance 0 none,
    .advance 0 none, .advance 0 none, .advance 0 none]

theorem no_wakeup_is_lost_during_exit :
    let traffic := ((boot {} (.ofList [⟨"a.coff", 1, ()⟩])).run suspendedDuringExit).2
    (boot {} (.ofList [⟨"a.coff", 1, ()⟩])).Orderly suspendedDuringExit ∧
      .suspend ⟨0⟩ ⟨1⟩ ∈ traffic.calls ∧ traffic.WakeupDue ⟨0⟩ ⟨1⟩ ∧
        ∃ during returned rest, (traffic.run wokenTooLate).1 = during ++ returned :: rest ∧
          returned.stage = .deregister ⟨0⟩ ⟨1⟩ (.ok (.exit 7)) ∧
            Collected during ⟨0⟩ ⟨1⟩ (.exit 7) := by
  intro traffic
  have orderly : (boot {} (.ofList [⟨"a.coff", 1, ()⟩])).Orderly suspendedDuringExit := by
    decide +kernel
  have suspended : .suspend ⟨0⟩ ⟨1⟩ ∈ traffic.calls := by
    decide +kernel
  rcases no_wakeup_is_lost {} (.ofList [⟨"a.coff", 1, ()⟩]) suspendedDuringExit orderly ⟨0⟩ ⟨1⟩
    suspended with ⟨due, _, returnsOk⟩
  have orderlyLater : traffic.Orderly wokenTooLate := by
    decide +kernel
  have long : 7 < (traffic.run wokenTooLate).1.length := by
    decide +kernel
  have split : (traffic.run wokenTooLate).1 =
      (traffic.run wokenTooLate).1.take 7 ++
        (traffic.run wokenTooLate).1[7] :: (traffic.run wokenTooLate).1.drop 8 := by
    rw [List.getElem_cons_drop, List.take_append_drop]
  have unreturned : Unreturned ((traffic.run wokenTooLate).1.take 7) ⟨0⟩ ⟨1⟩ := by
    decide +kernel
  have stages : ((traffic.run wokenTooLate).1.map Event.stage)[7]? =
      some (.deregister ⟨0⟩ ⟨1⟩ (.ok (.exit 7))) := by
    decide +kernel
  have returns : (traffic.run wokenTooLate).1[7].stage = .deregister ⟨0⟩ ⟨1⟩ (.ok (.exit 7)) := by
    simpa [List.getElem?_eq_getElem long] using stages
  rcases returnsOk wokenTooLate _ _ _ _ orderlyLater split unreturned returns with
    ⟨termination, same, collected⟩
  cases same
  exact ⟨orderly, suspended, due, _, _, _, split, returns, collected⟩

end Traffic

end Lifecycle
