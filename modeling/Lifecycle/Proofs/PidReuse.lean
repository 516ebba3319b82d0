import Lifecycle.Proofs.ProcessHistory
import Mathlib.Data.List.Chain
import Mathlib.Data.List.Induction

/-!
# Pids are not reused

The counter of pids goes backwards when the newest process is withdrawn, so a pid can be handed out
again. It can only after such a withdrawal: below the counter a pid without a record is gone for good,
and a pid with a record is not handed out.

Whoever was told a pid by a creation that returned can rely on it. From its launch on, the counter
stays above the pid, because only the withdrawal of that very process could take it back, and a
creation that has returned is not withdrawn. If in addition every start that is refused is refused at
once, then no pid is lost either: between calls, the pids below the counter are those that creations
have returned.
-/

namespace Lifecycle

namespace ProcessTable

variable {table next : ProcessTable} {operation : Operation} {pid : Pid}

/-! ### What the table hands out again -/

/-- The operation hands out the pid. -/
def Issues (table : ProcessTable) (operation : Operation) (pid : Pid) : Prop :=
  ∃ parent next, operation = .reserve parent ∧ table.reserve parent = .ok (pid, next)

/-- None of the operations hands out the pid when they are applied in order. -/
def Withholds (table : ProcessTable) (operations : List Operation) (pid : Pid) : Prop :=
  ∀ earlier operation later, operations = earlier ++ operation :: later →
    ¬(table.run earlier).Issues operation pid

theorem run_append (earlier later : List Operation) :
    table.run (earlier ++ later) = (table.run earlier).run later :=
  List.foldl_append

theorem Issues.number_eq (issues : table.Issues operation pid) : pid.number = table.nextPid := by
  rcases issues with ⟨parent, next, rfl, reserved⟩
  rcases reserve_eq_ok_iff.mp reserved with ⟨_, _, rfl, _⟩
  rfl

theorem Issues.nextPid_apply (issues : table.Issues operation pid) :
    (table.apply operation).nextPid = pid.number + 1 := by
  rcases issues with ⟨parent, next, rfl, reserved⟩
  rcases reserve_eq_ok_iff.mp reserved with ⟨_, _, rfl, rfl⟩
  simp [apply, reserved, entered]

theorem WellFormed.retired_run (wellFormed : table.WellFormed) (retired : table.Retired pid)
    (operations : List Operation) : (table.run operations).Retired pid := by
  induction operations generalizing table with
  | nil => exact retired
  | cons operation rest ih =>
      apply ih (wellFormed.apply operation)
      rcases wellFormed.apply_cases operation with unchanged | changes
      · rw [unchanged]
        exact retired
      · exact changes.retired retired

theorem WellFormed.withholds_of_retired (wellFormed : table.WellFormed)
    (retired : table.Retired pid) (operations : List Operation) :
    table.Withholds operations pid := by
  intro earlier operation later split issues
  have below := (wellFormed.retired_run retired earlier).2
  have number := issues.number_eq
  omega

/-- Where the counter went back to a pid, and that the pid was not handed out since. -/
theorem WellFormed.exists_rewind (wellFormed : table.WellFormed)
    (below : pid.number < table.nextPid) {operations : List Operation}
    (rewound : (table.run operations).nextPid ≤ pid.number) :
    ∃ earlier later, operations = earlier ++ .withdraw pid :: later ∧
      (table.run earlier).contains pid = true ∧
        (table.run earlier).nextPid = pid.number + 1 ∧
          (table.run (earlier ++ [.withdraw pid])).Withholds later pid := by
  -- Seen from the end, because the withdrawal that counts is the last one.
  induction operations using List.reverseRecOn with
  | nil => exact absurd below (Nat.not_lt.mpr rewound)
  | append_singleton operations operation ih =>
      have before := wellFormed.run operations
      have stepped : table.run (operations ++ [operation]) =
          (table.run operations).apply operation := run_append operations [operation]
      rw [stepped] at rewound
      by_cases already : (table.run operations).nextPid ≤ pid.number
      · -- The counter was that low already, and handing out the pid now would raise it.
        rcases ih already with ⟨earlier, later, rfl, present, newest, silent⟩
        refine ⟨earlier, later ++ [operation], by simp, present, newest, ?_⟩
        intro first issuing rest split issues
        rcases append_singleton_eq_append_cons split with ⟨rfl, rfl⟩ | ⟨shorter, before⟩
        · rw [← run_append, List.append_assoc, List.singleton_append] at issues
          have raised := issues.nextPid_apply
          omega
        · exact silent first issuing shorter before issues
      · rw [Nat.not_le] at already
        rcases before.apply_cases operation with unchanged | changes
        · rw [unchanged] at rewound
          omega
        · rcases changes.lt_or_withdraw already with kept | ⟨rfl, present, newest⟩
          · omega
          · refine ⟨operations, [], rfl, present, newest, ?_⟩
            intro first issuing rest split
            simp at split

/-- When a pid can be handed out for a second time, and when it cannot. -/
structure SparesPids (table : ProcessTable) : Prop where
  /-- In between, the process was withdrawn while it was the newest. -/
  again : ∀ {first second between pid}, table.Issues first pid →
    ((table.apply first).run between).Issues second pid →
      ∃ earlier later, between = earlier ++ .withdraw pid :: later ∧
        ((table.apply first).run earlier).contains pid = true ∧
          ((table.apply first).run earlier).nextPid = pid.number + 1 ∧
            ((table.apply first).run (earlier ++ [.withdraw pid])).Withholds later pid
  present : ∀ {operation pid}, table.contains pid = true → ¬table.Issues operation pid
  collected : ∀ {caller pid termination},
    (table.collect caller pid).1 = .completed termination →
      ∀ operations, (table.apply (.collect caller pid)).Withholds operations pid
  overtaken : ∀ {pid}, table.contains pid = true → table.nextPid ≠ pid.number + 1 →
    ∀ operations, (table.apply (.withdraw pid)).Withholds operations pid

theorem WellFormed.sparesPids (wellFormed : table.WellFormed) : table.SparesPids := by
  refine ⟨?_, ?_, ?_, ?_⟩
  · intro first second between pid issues again
    have raised := issues.nextPid_apply
    have lowered := again.number_eq
    exact (wellFormed.apply first).exists_rewind (by omega) (by omega)
  · intro operation pid present issues
    rcases contains_iff.mp present with ⟨record, found⟩
    have below := wellFormed.below_next found
    have number := issues.number_eq
    omega
  · intro caller pid termination completed
    apply (wellFormed.apply (.collect caller pid)).withholds_of_retired
    rcases wellFormed.collect_cases caller pid with
      ⟨_, answer⟩ | ⟨ended, _, state, answer⟩ | ⟨_, _, answer⟩
    · rw [answer] at completed
      cases completed
    · rcases stateOf?_eq_some_iff.mp state with ⟨record, present, _⟩
      have left : table.apply (.collect caller pid) = table.collected caller pid := by
        simp only [ProcessTable.apply, answer]
      rw [left]
      exact ⟨by simp [find?_collected], wellFormed.below_next present⟩
    · rw [answer] at completed
      cases completed
  · intro pid present overtaken
    apply (wellFormed.apply (.withdraw pid)).withholds_of_retired
    rcases contains_iff.mp present with ⟨record, found⟩
    refine ⟨by simp [ProcessTable.apply, find?_withdraw], ?_⟩
    simp only [ProcessTable.apply, nextPid_withdraw found, if_neg (Ne.symm overtaken)]
    exact wellFormed.below_next found

end ProcessTable

/-! ### What a session returns -/

/-- The pid with which a creation returned. -/
def Happening.returned? : Happening → Option Pid
  | .created _ pid => some pid
  | _ => none

theorem Happening.returned?_eq_some_iff {happening : Happening} {pid : Pid} :
    happening.returned? = some pid ↔ ∃ parent, happening = .created parent pid := by
  cases happening with
  | created parent other => simp [returned?]
  | _ => simp [returned?]

/-- The pids below a number. -/
def pidsBelow (number : Nat) : List Pid := (List.range number).map Pid.mk

theorem pidsBelow_succ_perm (number : Nat) :
    (pidsBelow (number + 1)).Perm (⟨number⟩ :: pidsBelow number) := by
  simp only [pidsBelow, List.range_succ, List.map_append]
  exact List.perm_append_singleton _ _

@[simp]
theorem length_pidsBelow (number : Nat) : (pidsBelow number).length = number := by
  simp [pidsBelow]

@[simp]
theorem mem_pidsBelow {number : Nat} {pid : Pid} : pid ∈ pidsBelow number ↔ pid.number < number := by
  simp only [pidsBelow, List.mem_map, List.mem_range]
  constructor
  · rintro ⟨_, below, rfl⟩
    exact below
  · intro below
    exact ⟨pid.number, below, rfl⟩

namespace Activity

variable {E : Type} {activity next last : Activity E} {happening : Happening}
  {effects : List Effect} {parent : Option Pid} {pid : Pid} {history : List (Moment E)}
  {returned : List Pid}

/-- The pids with which creations returned, in order. -/
def returnedPids (history : List (Moment E)) : List Pid :=
  (history.map Moment.happening).filterMap Happening.returned?

theorem mem_returnedPids :
    pid ∈ returnedPids history ↔
      ∃ moment ∈ history, ∃ parent, moment.happening = .created parent pid := by
  simp only [returnedPids, List.filterMap_map, List.mem_filterMap, Function.comp_apply,
    Happening.returned?_eq_some_iff]

theorem Steps.nodup_returnedPids (steps : Steps activity history last) (sound : activity.Sound) :
    (returnedPids history).Nodup := by
  induction steps with
  | nil => exact List.nodup_nil
  | cons step rest ih =>
      rename_i activity last moment history
      have distinct := ih (step.sound sound)
      cases returns : moment.happening.returned? with
      | none => simpa [returnedPids, returns] using distinct
      | some pid =>
          rcases Happening.returned?_eq_some_iff.mp returns with ⟨parent, created⟩
          have creating := step.2
          rw [created] at creating
          have settled := (creating.created_pending sound).2
          have absent : pid ∉ returnedPids history := by
            intro again
            rcases mem_returnedPids.mp again with ⟨later, member, creator, recreated⟩
            apply rest.not_settles settled later member
            rw [recreated]
            exact .created
          simpa [returnedPids, returns] using And.intro absent distinct

/-! ### The counter stays above -/

theorem Steps.lt_nextPid (steps : Steps activity history last)
    (below : pid.number < activity.kernel.table.nextPid)
    (kept : ∀ moment ∈ history, ∀ parent cause, moment.happening ≠ .withdrawn parent pid cause) :
    ∀ moment ∈ history, pid.number < moment.after.kernel.table.nextPid := by
  induction steps with
  | nil =>
      intro moment member
      cases member
  | cons step rest ih =>
      rename_i moment history
      have after := step.2.lt_nextPid below (kept moment List.mem_cons_self)
      intro other member
      rcases List.mem_cons.mp member with rfl | later
      · exact after
      · apply ih after
        · intro between between_mem
          exact kept between (List.mem_cons_of_mem moment between_mem)
        · exact later

theorem Step.newest_of_launched (step : Step activity (.launched parent pid) effects next) :
    next.kernel.table.contains pid = true ∧ next.kernel.table.nextPid = pid.number + 1 := by
  cases step with
  | launched inRange known built =>
      refine ⟨?_, rfl⟩
      simp only [Kernel.launched, ProcessTable.contains_activated]
      exact ProcessTable.contains_entered.mpr (Or.inl rfl)

/-- A creation that returned was launched before, and until it returned nothing else was heard of it. -/
theorem launch_of_created {config : KernelConfig} {registry : ImageRegistry E}
    {prior later : List (Moment E)} {success : Moment E}
    (steps : Steps (boot config registry) (prior ++ success :: later) last)
    (succeeds : success.happening = .created parent pid) :
    ∃ earlier launch during, prior = earlier ++ launch :: during ∧
      launch.happening = .launched parent pid ∧
        (∀ moment ∈ during, ¬moment.happening.Settles pid) ∧
          ∀ moment ∈ later, ¬moment.happening.Settles pid := by
  have sound := sound_boot config registry
  rcases steps.cut with ⟨before, returns, after⟩
  rw [succeeds] at returns
  rcases returns.created_pending (before.sound sound) with ⟨pending, settled⟩
  have nothing : Began ([] : List (Moment E)) (boot config registry) := by
    intro parent pid pending
    cases pending
  rcases before.began sound nothing parent pid pending with
    ⟨earlier, launch, during, split, launched, unheard⟩
  exact ⟨earlier, launch, during, split, launched, unheard, after.not_settles settled⟩

theorem lt_nextPid_of_created {config : KernelConfig} {registry : ImageRegistry E}
    {prior later : List (Moment E)} {success : Moment E}
    (steps : Steps (boot config registry) (prior ++ success :: later) last)
    (succeeds : success.happening = .created parent pid) :
    ∃ earlier launch during, prior = earlier ++ launch :: during ∧
      launch.happening = .launched parent pid ∧
        ∀ moment ∈ launch :: during ++ success :: later,
          pid.number < moment.after.kernel.table.nextPid := by
  rcases launch_of_created steps succeeds with
    ⟨earlier, launch, during, rfl, launched, unheard, silent⟩
  refine ⟨earlier, launch, during, rfl, launched, ?_⟩
  rw [List.append_assoc, List.cons_append] at steps
  rcases steps.cut with ⟨_, launching, since⟩
  rw [launched] at launching
  have newest := launching.newest_of_launched.2
  have above : pid.number < launch.after.kernel.table.nextPid := by omega
  have kept : ∀ moment ∈ during ++ success :: later, ∀ parent cause,
      moment.happening ≠ .withdrawn parent pid cause := by
    intro moment member creator cause withdrawn
    have settles : moment.happening.Settles pid := by
      rw [withdrawn]
      exact .withdrawn
    rcases List.mem_append.mp member with meanwhile | afterwards
    · exact unheard moment meanwhile settles
    · rcases List.mem_cons.mp afterwards with rfl | afterwards
      · rw [succeeds] at withdrawn
        cases withdrawn
      · exact silent moment afterwards settles
  intro moment member
  rcases List.mem_cons.mp member with rfl | afterwards
  · exact above
  · exact since.lt_nextPid above kept moment afterwards

theorem Steps.lt_nextPid_of_mem (steps : Steps activity history last) (sound : activity.Sound)
    (member : pid ∈ returnedPids history) : pid.number < last.kernel.table.nextPid := by
  rcases mem_returnedPids.mp member with ⟨moment, present, parent, created⟩
  rcases List.append_of_mem present with ⟨earlier, later, rfl⟩
  rcases steps.cut with ⟨before, step, after⟩
  rw [created] at step
  exact (after.settled (step.created_pending (before.sound sound)).2).1

/-- The pids that creations returned are different, and the counter stays above each of them. -/
structure NeverReused (config : KernelConfig) (history : List (Moment E)) : Prop where
  distinct : (returnedPids history).Nodup
  bounded : (returnedPids history).length ≤ min config.maxPid pidLimit + 1
  /-- The counter stays above the pid from the launch on, before the creation returns and after. -/
  above : ∀ {prior success later parent pid}, history = prior ++ success :: later →
    success.happening = .created parent pid →
      ∃ earlier launch during, prior = earlier ++ launch :: during ∧
        launch.happening = .launched parent pid ∧
          ∀ moment ∈ launch :: during ++ success :: later,
            pid.number < moment.after.kernel.table.nextPid

theorem Step.maxPid_eq (step : Step activity happening effects next) :
    next.kernel.table.maxPid = activity.kernel.table.maxPid := by
  cases step with
  | withdrawn =>
      rw [Kernel.fst_abandon]
      exact ProcessTable.maxPid_withdraw
  | _ => rfl

theorem maxPid_of_steps {config : KernelConfig} {registry : ImageRegistry E}
    (steps : Steps (boot config registry) history last) :
    last.kernel.table.maxPid = min config.maxPid pidLimit := by
  have kept := steps.preserves
    (fun activity => activity.kernel.table.maxPid = min config.maxPid pidLimit)
    (sound_boot config registry) rfl
    (fun _ before step => step.maxPid_eq.trans before)
  exact kept.2

theorem neverReused {config : KernelConfig} {registry : ImageRegistry E}
    (steps : Steps (boot config registry) history last) : NeverReused config history := by
  have sound := sound_boot config registry
  have distinct := steps.nodup_returnedPids sound
  refine ⟨distinct, ?_, ?_⟩
  · have below : returnedPids history ⊆ pidsBelow last.kernel.table.nextPid := by
      intro pid member
      exact mem_pidsBelow.mpr (steps.lt_nextPid_of_mem sound member)
    have counted := (List.subperm_of_subset distinct below).length_le
    have bounded := (steps.sound sound).wellFormed.next_le
    rw [length_pidsBelow] at counted
    rw [maxPid_of_steps steps] at bounded
    omega
  · intro prior success later parent pid split succeeds
    rw [split] at steps
    exact lt_nextPid_of_created steps succeeds

/-! ### No pid is lost -/

/-- No call is made between a launch and its withdrawal. -/
def RefusesAtOnce (history : List (Moment E)) : Prop :=
  (history.map Moment.happening).IsChain fun earlier later =>
    ∀ parent pid cause, later = .withdrawn parent pid cause → earlier = .launched parent pid

/-- The pids below the counter are those that were returned and those of pending creations. -/
def Accounted (returned : List Pid) (activity : Activity E) : Prop :=
  (returned ++ creations activity.pending).Perm (pidsBelow activity.kernel.table.nextPid)

theorem Step.accounted (step : Step activity happening effects next)
    (accounted : Accounted returned activity)
    (newest : ∀ parent pid cause, happening = .withdrawn parent pid cause →
      activity.kernel.table.contains pid = true ∧
        activity.kernel.table.nextPid = pid.number + 1) :
    Accounted (returned ++ happening.returned?.toList) next := by
  unfold Accounted at accounted ⊢
  cases step with
  | launched inRange known built =>
      rename_i kernel pending parent name arguments entry space loader
      simp only [Happening.returned?, Option.toList_none, List.append_nil, creations_creation]
      apply List.perm_middle.trans
      exact (accounted.cons _).trans (pidsBelow_succ_perm kernel.table.nextPid).symm
  | created => simpa [Happening.returned?] using accounted
  | withdrawn =>
      rename_i kernel outer parent failed cause
      have last : kernel.table.contains failed = true ∧
          kernel.table.nextPid = failed.number + 1 := newest parent failed (.start cause) rfl
      rcases last with ⟨present, last⟩
      rcases ProcessTable.contains_iff.mp present with ⟨record, found⟩
      have back : (kernel.abandon failed).1.table.nextPid = failed.number := by
        rw [Kernel.fst_abandon]
        simp only [ProcessTable.nextPid_withdraw found]
        exact if_pos last.symm
      simp only [Happening.returned?, Option.toList_none, List.append_nil, back]
      simp only [last, creations_creation] at accounted
      -- The newest process is withdrawn, so its pid is both the largest below the counter and pending.
      have shrunk := (List.perm_middle.symm.trans accounted).trans (pidsBelow_succ_perm failed.number)
      exact shrunk.cons_inv
  | suspended looks child unfinished =>
      rw [looks.creations_eq] at accounted
      simp only [Happening.returned?, Option.toList_none, List.append_nil]
      exact accounted
  | turnedDown looks stranger =>
      rw [looks.creations_eq] at accounted
      simp only [Happening.returned?, Option.toList_none, List.append_nil]
      exact accounted
  | collected looks child ended =>
      rw [looks.creations_eq] at accounted
      simp only [Happening.returned?, Option.toList_none, List.append_nil]
      exact accounted
  | _ =>
      simp only [Happening.returned?, Option.toList_none, List.append_nil]
      exact accounted

theorem Step.creation_mem_pending {cause : ExecError}
    (step : Step activity (.withdrawn parent pid cause) effects next) :
    .creation parent pid ∈ activity.pending := by
  cases step with
  | withdrawn => exact List.mem_cons_self

theorem accounted_of_refusesAtOnce {config : KernelConfig} {registry : ImageRegistry E}
    (steps : Steps (boot config registry) history last) (atOnce : RefusesAtOnce history) :
    Accounted (returnedPids history) last := by
  induction history using List.reverseRecOn generalizing last with
  | nil =>
      cases steps
      exact List.Perm.refl []
  | append_singleton history moment ih =>
      rcases steps.cut with ⟨before, step, rest⟩
      cases rest
      rw [RefusesAtOnce, List.map_append] at atOnce
      rcases List.isChain_append.mp atOnce with ⟨earlier, _, adjacent⟩
      have returns : returnedPids (history ++ [moment]) =
          returnedPids history ++ moment.happening.returned?.toList := by
        cases shape : moment.happening.returned? <;> simp [returnedPids, shape]
      rw [returns]
      apply step.accounted (ih before earlier)
      intro parent pid cause withdrawn
      rcases List.eq_nil_or_concat history with rfl | ⟨shorter, launch, rfl⟩
      · rw [withdrawn, ← before.eq_of_nil] at step
        cases step.creation_mem_pending
      · rw [List.concat_eq_append] at before adjacent
        have launched := adjacent launch.happening (by simp) moment.happening (by simp)
          parent pid cause withdrawn
        rcases before.cut with ⟨_, launching, rest⟩
        rw [launched, rest.eq_of_nil] at launching
        exact launching.newest_of_launched

theorem spawn_exhausted_iff (wellFormed : activity.kernel.table.WellFormed) (name : String)
    (arguments : List String) :
    (activity.spawn parent name arguments).happening = .refused parent .pidSpaceExhausted ↔
      activity.kernel.table.maxPid < activity.kernel.table.nextPid := by
  rcases Kernel.prepare_cases wellFormed parent name arguments with
    ⟨cause, effects, answer, _, refuses⟩ | ⟨entry, space, loader, effects, answer, _, inRange, _⟩
  · simp only [spawn, answer]
    cases refuses with
    | exhausted full => simp [full]
    | orphan inRange _ _ => simp [inRange]
    | unloadable inRange _ _ => simp [inRange]
  · simp only [spawn, answer]
    simp [inRange]

theorem creates_nextPid (wellFormed : activity.kernel.table.WellFormed)
    (inRange : activity.kernel.table.nextPid ≤ activity.kernel.table.maxPid)
    (known : ∀ creator, parent = some creator → activity.kernel.table.contains creator = true)
    {name : String} {arguments : List String} {loaded : LoadedImage E × Loader E}
    (loads : activity.kernel.loader.load name arguments = .ok loaded) :
    (activity.run [.spawn parent name arguments, .answer none]).1.map Moment.happening =
      [.launched parent ⟨activity.kernel.table.nextPid⟩,
        .created parent ⟨activity.kernel.table.nextPid⟩] := by
  rcases Kernel.prepare_cases wellFormed parent name arguments with
    ⟨cause, effects, answer, _, refuses⟩ | ⟨entry, space, loader, effects, answer, _⟩
  · cases refuses with
    | exhausted full => omega
    | orphan _ named unknown =>
        rw [known _ named] at unknown
        cases unknown
    | unloadable _ _ failed =>
        rw [loads] at failed
        cases failed
  · simp only [run, step, spawn, answer]
    rfl

/--
Between calls, nothing but the pids that creations returned was used up. As long as fewer were
returned than there are pids, a creation with nothing else in its way returns the next one; then
creations are refused.
-/
structure NoneWasted (config : KernelConfig) (history : List (Moment E)) (last : Activity E) :
    Prop where
  returned_perm : (returnedPids history).Perm (pidsBelow last.kernel.table.nextPid)
  creates_next : ∀ parent name arguments loaded,
    (returnedPids history).length < min config.maxPid pidLimit + 1 →
      (∀ creator, parent = some creator → last.kernel.table.contains creator = true) →
        last.kernel.loader.load name arguments = .ok loaded →
          (last.run [.spawn parent name arguments, .answer none]).1.map Moment.happening =
            [.launched parent ⟨(returnedPids history).length⟩,
              .created parent ⟨(returnedPids history).length⟩]
  exhausted_iff : ∀ parent name arguments,
    (last.spawn parent name arguments).happening = .refused parent .pidSpaceExhausted ↔
      (returnedPids history).length = min config.maxPid pidLimit + 1

theorem noneWasted {config : KernelConfig} {registry : ImageRegistry E}
    (steps : Steps (boot config registry) history last) (atOnce : RefusesAtOnce history)
    (outside : last.pending = []) : NoneWasted config history last := by
  have wellFormed := (steps.sound (sound_boot config registry)).wellFormed
  have bounded := wellFormed.next_le
  have capped := maxPid_of_steps steps
  have accounted := accounted_of_refusesAtOnce steps atOnce
  rw [Accounted, outside] at accounted
  simp only [creations, List.filterMap_nil, List.append_nil] at accounted
  have counted := accounted.length_eq
  rw [length_pidsBelow] at counted
  refine ⟨accounted, ?_, ?_⟩
  · intro parent name arguments loaded room known loads
    rw [counted]
    apply creates_nextPid wellFormed ?_ known loads
    omega
  · intro parent name arguments
    rw [spawn_exhausted_iff wellFormed]
    omega

/--
The table hands a pid out again only after the process that had it was withdrawn as the newest. The
pids that creations of a session return are different, and the counter stays above each of them from
its launch on. If no call is made between the start of a process and its refusal, then the pids below
the counter are those that creations returned.
-/
theorem pids_are_never_reused (config : KernelConfig) (registry : ImageRegistry E)
    (moves : List Move) :
    (∀ maxPid operations, ((ProcessTable.ofMaxPid maxPid).run operations).SparesPids) ∧
      NeverReused config ((boot config registry).run moves).1 ∧
        (RefusesAtOnce ((boot config registry).run moves).1 →
          ((boot config registry).run moves).2.pending = [] →
            NoneWasted config ((boot config registry).run moves).1
              ((boot config registry).run moves).2) := by
  have steps := steps_run (sound_boot config registry) moves
  refine ⟨?_, neverReused steps, noneWasted steps⟩
  intro maxPid operations
  exact ((ProcessTable.wellFormed_ofMaxPid maxPid).run operations).sparesPids

/-- The engine refuses to start a child; the next child is created with the pid of that one. -/
def refusedOnce : List Move :=
  [.spawn none "a.coff" [], .answer none, .spawn (some ⟨0⟩) "a.coff" [],
    .answer (some .noExecutionContext), .spawn (some ⟨0⟩) "a.coff" [], .answer none]

theorem pids_are_not_wasted_by_refusal :
    RefusesAtOnce ((boot {} (.ofList [⟨"a.coff", 1, ()⟩])).run refusedOnce).1 ∧
      returnedPids ((boot {} (.ofList [⟨"a.coff", 1, ()⟩])).run refusedOnce).1 = [⟨0⟩, ⟨1⟩] ∧
      NoneWasted {} ((boot {} (.ofList [⟨"a.coff", 1, ()⟩])).run refusedOnce).1
        ((boot {} (.ofList [⟨"a.coff", 1, ()⟩])).run refusedOnce).2 := by
  have happenings :
      ((boot {} (.ofList [⟨"a.coff", 1, ()⟩])).run refusedOnce).1.map Moment.happening =
        [.launched none ⟨0⟩, .created none ⟨0⟩, .launched (some ⟨0⟩) ⟨1⟩,
          .withdrawn (some ⟨0⟩) ⟨1⟩ (.start .noExecutionContext), .launched (some ⟨0⟩) ⟨1⟩,
          .created (some ⟨0⟩) ⟨1⟩] := by
    decide +kernel
  have atOnce : RefusesAtOnce ((boot {} (.ofList [⟨"a.coff", 1, ()⟩])).run refusedOnce).1 := by
    rw [RefusesAtOnce, happenings]
    simp
  refine ⟨atOnce, ?_, ?_⟩
  · rw [returnedPids, happenings]
    rfl
  · rcases pids_are_never_reused {} (.ofList [⟨"a.coff", 1, ()⟩]) refusedOnce with ⟨_, _, wasted⟩
    exact wasted atOnce (by decide +kernel)

end Activity

end Lifecycle
