import Lifecycle.Proofs.ProcessHistory

/-!
# A child is collected once, with its status

In every session, a child that was created is collected at most once, by the process that created it
and with the termination of its first exit. This covers every order in which calls can be made and
return: the child may run, exit and be collected while its creation is still pending, and a join that
waits looks again after whatever was done meanwhile.
-/

namespace Lifecycle

namespace Termination

/-- What the argument of an exit says about how the process ended. -/
inductive Tells : Option Int32 → Termination → Prop
  /-- A status is reported as it is, whichever it is. -/
  | exit (status : Int32) : Tells (some status) (.exit status)
  /-- Without a status the end is abnormal. -/
  | abnormal : Tells none .abnormal

theorem tells_ofStatus (status : Option Int32) : Tells status (.ofStatus status) := by
  cases status with
  | none => exact .abnormal
  | some status => exact .exit status

end Termination

/-- A join of the process by `caller`, if there is one, is turned down at once. -/
def Happening.TurnsDown (caller pid : Pid) (happening : Happening) : Prop :=
  happening ≠ .suspended caller pid ∧
    ∀ result, happening = .joined caller pid result → result = .error .notAChild

namespace Activity

variable {E : Type} {activity next last : Activity E} {happening : Happening}
  {effects : List Effect} {caller pid : Pid} {state : Option ProcessState}
  {history : List (Moment E)}

/-! ### What joins and exits answer -/

theorem Step.joined_ok {termination : Termination} {collector : Pid}
    (step : Step activity (.joined collector pid (.ok termination)) effects next)
    (tracks : activity.kernel.table.Tracks caller pid state) :
    collector = caller ∧ state = some (.exited termination) := by
  cases step with
  | collected looks child ended =>
      exact ⟨tracks.parent_eq collector child.2, tracks.state_eq.symm.trans ended⟩

/-- A join by anyone but the parent, or after the process was collected, is turned down. -/
theorem Step.joined_of_stranger {result : Except JoinError Termination} {collector : Pid}
    (step : Step activity (.joined collector pid result) effects next)
    (tracks : activity.kernel.table.Tracks caller pid state)
    (stranger : collector ≠ caller ∨ state = none) : result = .error .notAChild := by
  cases step with
  | turnedDown looks stranger => rfl
  | collected looks child ended =>
      rcases stranger with other | gone
      · exact absurd (tracks.parent_eq collector child.2) other
      · have state := tracks.state_eq.symm.trans ended
        rw [gone] at state
        cases state

theorem Step.suspended_of_tracks {waiter : Pid}
    (step : Step activity (.suspended waiter pid) effects next)
    (tracks : activity.kernel.table.Tracks caller pid state) :
    waiter = caller ∧ state ≠ none := by
  cases step with
  | suspended looks child unfinished =>
      refine ⟨tracks.parent_eq waiter child.2, ?_⟩
      intro gone
      rw [tracks.state_eq, gone] at unfinished
      simp at unfinished

/-- The exit of a process that does not run has no effect. -/
theorem Step.exited_of_not_running {status : Option Int32}
    (step : Step activity (.exited pid status) effects next)
    (idle : activity.kernel.table.stateOf? pid ≠ some .running) :
    next = activity ∧ effects = [] := by
  cases step with
  | exitIgnored _ => exact ⟨rfl, rfl⟩
  | departed running => exact absurd running idle

/-! ### The life of one process -/

/-- The first exit of the process in a history ended it, while it ran, and told the termination. -/
def EndsFirst (pid : Pid) (termination : Termination) (history : List (Moment E)) : Prop :=
  ∃ earlier exit later status, history = earlier ++ exit :: later ∧
    exit.happening = .exited pid status ∧ exit.before.kernel.table.stateOf? pid = some .running ∧
      Termination.Tells status termination ∧
        ∀ moment ∈ earlier, ∀ status, moment.happening ≠ .exited pid status

/-- What joins and exits of a process do, from the moment at which it was launched below `caller`. -/
structure JoinedOnce (caller pid : Pid) (since : List (Moment E)) : Prop where
  /-- Its parent alone collects it, and learns how it exited. -/
  collected : ∀ {earlier join later collector termination}, since = earlier ++ join :: later →
    join.happening = .joined collector pid (.ok termination) →
      collector = caller ∧ EndsFirst pid termination earlier
  /-- Once it was collected, nobody collects it or waits for it. -/
  afterwards : ∀ {earlier join later}, since = earlier ++ join :: later →
    join.happening.collects pid = true →
      ∀ moment ∈ later, ∀ other, moment.happening.TurnsDown other pid
  strangers : ∀ moment ∈ since, ∀ other, other ≠ caller → moment.happening.TurnsDown other pid
  /-- Once it has exited, further exits change nothing. -/
  ignored : ∀ {earlier exit later status}, since = earlier ++ exit :: later →
    exit.happening = .exited pid status →
      (∃ moment ∈ earlier, ∃ status, moment.happening = .exited pid status) →
        exit.after = exit.before ∧ signals exit.effects = []

/-- What a history that keeps track of a process says at each of its moments. -/
theorem Steps.tracks_at {earlier later : List (Moment E)} {moment : Moment E}
    (steps : Steps activity (earlier ++ moment :: later) last)
    (tracks : activity.kernel.table.Tracks caller pid state)
    (kept : ∀ other ∈ earlier ++ moment :: later, ¬other.happening.Settles pid ∨
      ∃ parent, other.happening = .created parent pid) :
    moment.before.kernel.table.Tracks caller pid (stateAfter pid state earlier) ∧
      Step moment.before moment.happening (signals moment.effects) moment.after := by
  rcases steps.cut with ⟨before, step, _⟩
  refine ⟨before.tracks tracks ?_, step⟩
  intro other member parent cause withdrawn
  rcases kept other (List.mem_append_left _ member) with silent | ⟨creator, created⟩
  · apply silent
    rw [withdrawn]
    exact .withdrawn
  · rw [withdrawn] at created
    cases created

theorem Steps.joinedOnce (steps : Steps activity history last)
    (tracks : activity.kernel.table.Tracks caller pid (some .running))
    (kept : ∀ other ∈ history, ¬other.happening.Settles pid ∨
      ∃ parent, other.happening = .created parent pid) : JoinedOnce caller pid history := by
  refine ⟨?_, ?_, ?_, ?_⟩
  · intro earlier join later collector termination split joined
    subst split
    rcases steps.tracks_at tracks kept with ⟨tracked, step⟩
    rw [joined] at step
    rcases step.joined_ok tracked with ⟨parent, ended⟩
    refine ⟨parent, ?_⟩
    rcases exists_exit_of_stateAfter ended with
      ⟨before, exit, between, status, rfl, exits, same, running, first⟩
    have told : Termination.Tells status termination := by
      rw [same]
      exact Termination.tells_ofStatus status
    refine ⟨before, exit, between, status, rfl, exits, ?_, told, first⟩
    -- The table agrees with the history at the exit too, which came before the join.
    rw [List.append_assoc, List.cons_append] at steps kept
    have trackedExit := (steps.tracks_at tracks kept).1
    rw [running] at trackedExit
    exact trackedExit.state_eq
  · intro earlier join later split collects moment member other
    subst split
    rcases List.append_of_mem member with ⟨between, rest, rfl⟩
    rcases Happening.collects_iff.mp collects with ⟨collector, termination, joined⟩
    rw [← List.cons_append, ← List.append_assoc] at steps kept
    rcases steps.tracks_at tracks kept with ⟨tracked, step⟩
    have gone : stateAfter pid (some .running) (earlier ++ join :: between) = none := by
      rw [stateAfter_append, stateAfter_cons, joined]
      simp only [advance, if_true]
      exact stateAfter_none between
    rw [gone] at tracked
    refine ⟨?_, ?_⟩
    · intro suspended
      rw [suspended] at step
      exact (step.suspended_of_tracks tracked).2 rfl
    · intro result joined
      rw [joined] at step
      exact step.joined_of_stranger tracked (Or.inr rfl)
  · intro moment member other stranger
    rcases List.append_of_mem member with ⟨earlier, later, rfl⟩
    rcases steps.tracks_at tracks kept with ⟨tracked, step⟩
    refine ⟨?_, ?_⟩
    · intro suspended
      rw [suspended] at step
      exact stranger (step.suspended_of_tracks tracked).1
    · intro result joined
      rw [joined] at step
      exact step.joined_of_stranger tracked (Or.inl stranger)
  · intro earlier exit later status split exits before
    subst split
    rcases before with ⟨first, member, earlierStatus, firstExits⟩
    rcases steps.tracks_at tracks kept with ⟨tracked, step⟩
    rw [exits] at step
    apply step.exited_of_not_running
    rw [tracked.state_eq]
    exact stateAfter_ne_running member firstExits

/-- Nothing is counted twice if nothing that counts follows something that counts. -/
theorem countP_le_one_of_split {α : Type} {counts : α → Bool} {entries : List α}
    (last : ∀ {earlier entry later}, entries = earlier ++ entry :: later → counts entry = true →
      ∀ other ∈ later, counts other = false) : entries.countP counts ≤ 1 := by
  induction entries with
  | nil => simp
  | cons first rest ih =>
      by_cases counted : counts first = true
      · have none : rest.countP counts = 0 := by
          rw [List.countP_eq_zero]
          intro other member
          have split : first :: rest = [] ++ first :: rest := rfl
          simp [last split counted other member]
        have one := List.countP_cons_of_pos (l := rest) counted
        omega
      · rw [List.countP_cons_of_neg counted]
        apply ih
        intro earlier entry later split
        apply last
        rw [split, List.cons_append]

theorem JoinedOnce.countP_le_one {since : List (Moment E)} (once : JoinedOnce caller pid since) :
    since.countP (fun moment => moment.happening.collects pid) ≤ 1 := by
  apply countP_le_one_of_split
  intro earlier join later split collects moment member
  rw [← Bool.not_eq_true]
  intro again
  rcases Happening.collects_iff.mp again with ⟨collector, termination, joined⟩
  have result := (once.afterwards split collects moment member collector).2 _ joined
  cases result

/-- A process that is launched was never collected before. -/
theorem Steps.countP_eq_zero {launch : Moment E} {parent : Option Pid} {later : List (Moment E)}
    (steps : Steps activity (history ++ launch :: later) last) (sound : activity.Sound)
    (launched : launch.happening = .launched parent pid) :
    history.countP (fun moment => moment.happening.collects pid) = 0 := by
  rw [List.countP_eq_zero]
  intro moment member collects
  rcases List.append_of_mem member with ⟨earlier, between, rfl⟩
  rw [List.append_assoc, List.cons_append] at steps
  rcases steps.cut with ⟨before, step, after⟩
  rcases after.cut with ⟨gap, launching, _⟩
  have gone := gap.gone (step.gone_of_collects (before.sound sound) collects)
  rw [launched] at launching
  exact launching.not_gone_of_launched gone

/--
A child that `caller` created is collected at most once in the whole session, and only by `caller`,
with the termination of the first exit that ended it. Further exits have no effect, and any other join
of the child is turned down.
-/
theorem child_is_joined_once (config : KernelConfig) (registry : ImageRegistry E)
    (moves : List Move) {prior later : List (Moment E)} {success : Moment E}
    (history : ((boot config registry).run moves).1 = prior ++ success :: later)
    (succeeds : success.happening = .created (some caller) pid) :
    ((boot config registry).run moves).1.countP
        (fun moment => moment.happening.collects pid) ≤ 1 ∧
      ∃ earlier launch during, prior = earlier ++ launch :: during ∧
        launch.happening = .launched (some caller) pid ∧
          (∀ moment ∈ during, ¬moment.happening.Settles pid) ∧
            JoinedOnce caller pid (during ++ success :: later) := by
  have sound := sound_boot config registry
  have steps := steps_run sound moves
  rw [history] at steps ⊢
  rcases steps.cut with ⟨before, returns, after⟩
  have soundBefore := before.sound sound
  rw [succeeds] at returns
  rcases returns.created_pending soundBefore with ⟨pending, settled⟩
  have nothing : Began ([] : List (Moment E)) (boot config registry) := by
    intro parent pid pending
    cases pending
  rcases before.began sound nothing (some caller) pid pending with
    ⟨earlier, launch, during, split, launched, unheard⟩
  rw [List.nil_append] at split
  subst split
  rw [List.append_assoc, List.cons_append] at steps ⊢
  rcases steps.cut with ⟨_, launching, since⟩
  rw [launched] at launching
  have kept : ∀ other ∈ during ++ success :: later, ¬other.happening.Settles pid ∨
      ∃ parent, other.happening = .created parent pid := by
    intro other member
    rcases List.mem_append.mp member with meanwhile | afterwards
    · exact Or.inl (unheard other meanwhile)
    · rcases List.mem_cons.mp afterwards with rfl | afterwards
      · exact Or.inr ⟨some caller, succeeds⟩
      · exact Or.inl (after.not_settles settled other afterwards)
  have once := since.joinedOnce launching.tracks_launched kept
  refine ⟨?_, earlier, launch, during, rfl, launched, unheard, once⟩
  -- The joins that count came neither before the launch nor twice after it.
  have never := steps.countP_eq_zero sound launched
  have atMost := once.countP_le_one
  have silent : ¬launch.happening.collects pid = true := by
    rw [launched]
    simp [Happening.collects]
  have skipped := List.countP_cons_of_neg (l := during ++ success :: later)
    (p := fun moment : Moment E => moment.happening.collects pid) silent
  rw [List.countP_append, skipped, never]
  omega

/-- The child exits and is collected before the engine answers its start; then it is joined again. -/
def collectedInsideStart : List Move :=
  [.spawn none "a.coff" [], .answer none, .spawn (some ⟨0⟩) "a.coff" [], .exit ⟨1⟩ (some 7),
    .join ⟨0⟩ ⟨1⟩, .answer none, .join ⟨0⟩ ⟨1⟩]

theorem child_is_joined_inside_start :
    ∃ prior success later,
      ((boot {} (.ofList [⟨"a.coff", 1, ()⟩])).run collectedInsideStart).1 =
          prior ++ success :: later ∧
        success.happening = .created (some ⟨0⟩) ⟨1⟩ ∧
          ∃ earlier launch during, prior = earlier ++ launch :: during ∧
            launch.happening = .launched (some ⟨0⟩) ⟨1⟩ ∧
              JoinedOnce ⟨0⟩ ⟨1⟩ (during ++ success :: later) := by
  have happenings :
      ((boot {} (.ofList [⟨"a.coff", 1, ()⟩])).run collectedInsideStart).1.map Moment.happening =
        [.launched none ⟨0⟩, .created none ⟨0⟩, .launched (some ⟨0⟩) ⟨1⟩, .exited ⟨1⟩ (some 7),
          .joined ⟨0⟩ ⟨1⟩ (.ok (.exit 7))] ++
          .created (some ⟨0⟩) ⟨1⟩ :: [.joined ⟨0⟩ ⟨1⟩ (.error .notAChild)] := by
    decide +kernel
  rcases List.map_eq_append_iff.mp happenings with ⟨prior, rest, split, _, tail⟩
  rcases List.map_eq_cons_iff.mp tail with ⟨success, later, rfl, succeeds, _⟩
  rcases child_is_joined_once {} (.ofList [⟨"a.coff", 1, ()⟩]) collectedInsideStart split succeeds with
    ⟨_, earlier, launch, during, same, launched, _, once⟩
  exact ⟨prior, success, later, split, succeeds, earlier, launch, during, same, launched, once⟩

end Activity

end Lifecycle
