import Lifecycle.Proofs.PidMap
import Lifecycle.WaitQueue
import Mathlib.Data.List.Induction
import Mathlib.Data.List.Nodup

/-!
# Wait queues as ordered sets of pairs

A wait queue keeps a list of waiters for each target that has any. Taken together it is one list of
pairs of a target and a waiter, without repetition: an addition appends the pair unless it is there,
a removal drops the pair, and releasing a target drops all its pairs. This file proves that a wait
queue answers every operation as that list does, whatever operations came before.

What the list holds is told from the history. A pair is in it from its addition until it is removed
or its target released, and the pairs stand in the order in which they came to be there: a repeated
addition does not move a pair, and a pair that comes back stands last.
-/

namespace Lifecycle

namespace WaitQueue

/-! ### Operations -/

/-- An operation with its arguments. -/
inductive Operation where
  | add (target waiter : Pid)
  | remove (target waiter : Pid)
  | takeAll (target : Pid)
  | countOn (target : Pid)

/-- The process that the operation is about. -/
def Operation.target : Operation → Pid
  | add target _ | remove target _ | takeAll target | countOn target => target

/-- What an operation answers. -/
inductive Answer where
  | done
  | released (waiters : List Pid)
  | counted (count : Nat)

variable {queue : WaitQueue} {target waiter other pid : Pid}

/-! ### Tidy queues -/

/-- No target has an entry without waiters, and nobody is entered twice for the same target. -/
def Tidy (queue : WaitQueue) : Prop :=
  ∀ target waiting, queue.waiters.find? target = some waiting → waiting ≠ [] ∧ waiting.Nodup

theorem tidy_empty : (∅ : WaitQueue).Tidy := by
  intro target waiting found
  cases found

theorem Tidy.nodup (tidy : queue.Tidy) (target : Pid) : (queue.waitersOf target).Nodup := by
  cases found : queue.waiters.find? target with
  | none => simp [waitersOf, found]
  | some waiting => simpa [waitersOf, found] using (tidy target waiting found).2

theorem Tidy.insert (tidy : queue.Tidy) {waiting : List Pid} (inhabited : waiting ≠ [])
    (distinct : waiting.Nodup) : Tidy ⟨queue.waiters.insert target waiting⟩ := by
  intro other others found
  simp only [PidMap.find?_insert] at found
  split at found
  · cases found
    exact ⟨inhabited, distinct⟩
  · exact tidy other others found

theorem Tidy.erase (tidy : queue.Tidy) : Tidy ⟨queue.waiters.erase target⟩ := by
  intro other others found
  simp only [PidMap.find?_erase] at found
  split at found
  · cases found
  · exact tidy other others found

theorem Tidy.add (tidy : queue.Tidy) : (queue.add target waiter).Tidy := by
  unfold WaitQueue.add
  split
  · exact tidy
  · rename_i absent
    apply tidy.insert
    · simp
    · apply List.Nodup.append (tidy.nodup target) (List.nodup_singleton waiter)
      simpa using absent

theorem Tidy.remove (tidy : queue.Tidy) : (queue.remove target waiter).Tidy := by
  unfold WaitQueue.remove
  split
  · exact tidy
  · rename_i waiting found
    simp only
    split
    · exact tidy.erase
    · rename_i inhabited
      apply tidy.insert
      · simpa using inhabited
      · exact (tidy target waiting found).2.filter _

/-- A tidy queue in which nobody waits has no entries at all. -/
theorem Tidy.eq_empty (tidy : queue.Tidy) (unawaited : ∀ target, queue.waitersOf target = []) :
    queue = ∅ := by
  have same : queue.waiters = PidMap.empty := by
    apply PidMap.ext_find?
    intro target
    cases found : queue.waiters.find? target with
    | none => rfl
    | some waiting =>
        have none := unawaited target
        simp only [waitersOf, found, Option.getD_some] at none
        exact absurd none (tidy target waiting found).1
  cases queue
  cases same
  rfl

theorem mem_add :
    other ∈ (queue.add target waiter).waitersOf pid ↔
      (target = pid ∧ waiter = other) ∨ other ∈ queue.waitersOf pid := by
  rw [waitersOf_add]
  by_cases same : target = pid
  · subst same
    by_cases waiting : waiter ∈ queue.waitersOf target
    · simp only [waiting, not_true_eq_false, and_false, if_false, true_and]
      constructor
      · exact Or.inr
      · rintro (rfl | member)
        · exact waiting
        · exact member
    · simp [waiting, or_comm, @eq_comm _ other]
  · simp [same]

theorem mem_remove :
    other ∈ (queue.remove target waiter).waitersOf pid ↔
      other ∈ queue.waitersOf pid ∧ ¬(target = pid ∧ waiter = other) := by
  rw [waitersOf_remove]
  by_cases same : target = pid
  · subst same
    simp [@eq_comm _ other]
  · simp [same]

/-! ### Runs -/

/-- What an operation answers, and the queue after it. -/
def step (queue : WaitQueue) : Operation → Answer × WaitQueue
  | .add target waiter => (.done, queue.add target waiter)
  | .remove target waiter => (.done, queue.remove target waiter)
  | .takeAll target => (.released (queue.takeAll target).1, (queue.takeAll target).2)
  | .countOn target => (.counted (queue.countOn target), queue)

/-- The queue after operations in order. -/
def run (operations : List Operation) (queue : WaitQueue) : WaitQueue :=
  operations.foldl (fun queue operation => (queue.step operation).2) queue

theorem run_snoc (operations : List Operation) (operation : Operation) (queue : WaitQueue) :
    queue.run (operations ++ [operation]) = ((queue.run operations).step operation).2 := by
  simp [run]

theorem Tidy.step (tidy : queue.Tidy) (operation : Operation) : (queue.step operation).2.Tidy := by
  cases operation with
  | add target waiter => exact tidy.add
  | remove target waiter => exact tidy.remove
  | takeAll target => exact tidy.erase
  | countOn target => exact tidy

theorem Tidy.run (tidy : queue.Tidy) (operations : List Operation) :
    (queue.run operations).Tidy := by
  induction operations using List.reverseRecOn with
  | nil => exact tidy
  | append_singleton operations operation ih =>
      rw [run_snoc]
      exact ih.step operation

/-! ### Targets do not affect each other -/

theorem find?_add (queue : WaitQueue) (target waiter other : Pid) :
    (queue.add target waiter).waiters.find? other =
      if target = other ∧ waiter ∉ queue.waitersOf target then
        some (queue.waitersOf target ++ [waiter])
      else queue.waiters.find? other := by
  unfold add
  by_cases waiting : waiter ∈ queue.waitersOf target
  · simp [waiting]
  · simp [waiting, PidMap.find?_insert]

/-- An entry that loses its last waiter is dropped. -/
theorem find?_remove (queue : WaitQueue) (target waiter other : Pid) :
    (queue.remove target waiter).waiters.find? other =
      if target = other then
        ((queue.waiters.find? target).map (List.filter (· != waiter))).filter (· ≠ [])
      else queue.waiters.find? other := by
  unfold remove
  cases found : queue.waiters.find? target with
  | none =>
      by_cases same : target = other
      · subst same
        simp [found]
      · simp [same]
  | some waiting =>
      by_cases last : waiting.filter (· != waiter) = []
      · simp [last, PidMap.find?_erase, Option.filter]
      · simp [last, PidMap.find?_insert, Option.filter]

theorem find?_takeAll (queue : WaitQueue) (target other : Pid) :
    (queue.takeAll target).2.waiters.find? other =
      if target = other then none else queue.waiters.find? other :=
  PidMap.find?_erase queue.waiters target other

theorem find?_step_of_ne {operation : Operation} (others : operation.target ≠ target) :
    (queue.step operation).2.waiters.find? target = queue.waiters.find? target := by
  cases operation with
  | add about waiter => exact (find?_add queue about waiter target).trans (if_neg (others ·.1))
  | remove about waiter => exact (find?_remove queue about waiter target).trans (if_neg others)
  | takeAll about => exact (find?_takeAll queue about target).trans (if_neg others)
  | countOn about => rfl

/-- What an operation does for its target depends on what is stored for it, and on nothing else. -/
theorem find?_step_congr {left right : WaitQueue} {operation : Operation}
    (same : left.waiters.find? operation.target = right.waiters.find? operation.target) :
    (left.step operation).2.waiters.find? operation.target =
      (right.step operation).2.waiters.find? operation.target := by
  cases operation with
  | add target waiter =>
      have alike : left.waitersOf target = right.waitersOf target :=
        congrArg (fun waiting => waiting.getD []) same
      change left.waiters.find? target = right.waiters.find? target at same
      simp only [step, find?_add, Operation.target, alike, same]
  | remove target waiter =>
      change left.waiters.find? target = right.waiters.find? target at same
      simp only [step, find?_remove, Operation.target, same]
  | takeAll target => simp only [step, find?_takeAll, Operation.target, if_true]
  | countOn target => exact same

/-- What is stored for a target comes from the operations on this target alone. -/
theorem find?_run_filter (history : List Operation) (queue : WaitQueue) (target : Pid) :
    (queue.run history).waiters.find? target =
      (queue.run (history.filter fun operation => operation.target = target)).waiters.find?
        target := by
  induction history using List.reverseRecOn with
  | nil => rfl
  | append_singleton history operation ih =>
      rw [run_snoc, List.filter_append]
      by_cases about : operation.target = target
      · subst about
        rw [List.filter_singleton, decide_eq_true rfl, cond_true, run_snoc]
        exact find?_step_congr ih
      · -- The operation is about another target, and the filter drops it.
        rw [find?_step_of_ne about, List.filter_singleton, decide_eq_false about, cond_false,
          List.append_nil]
        exact ih

end WaitQueue

/-! ### The list of pairs -/

/-- Who waits for whom: pairs of a target and a waiter, each once, the oldest in front. -/
structure Registrations where
  pairs : List (Pid × Pid)
  nodup : pairs.Nodup

namespace Registrations

variable {registrations : Registrations} {target waiter other pid : Pid}

/-- No pairs. -/
def empty : Registrations := ⟨[], List.nodup_nil⟩

/-- Appends a pair that is not there. -/
def add (registrations : Registrations) (target waiter : Pid) : Registrations :=
  if absent : (target, waiter) ∉ registrations.pairs then
    { pairs := registrations.pairs ++ [(target, waiter)]
      nodup := registrations.nodup.append (List.nodup_singleton _) (by simpa using absent) }
  else registrations

/-- Drops a pair. -/
def remove (registrations : Registrations) (target waiter : Pid) : Registrations where
  pairs := registrations.pairs.filter (· ≠ (target, waiter))
  nodup := registrations.nodup.filter _

/-- The waiters of one target, in the order of the pairs. -/
def waitersOf (registrations : Registrations) (target : Pid) : List Pid :=
  (registrations.pairs.filter (·.1 = target)).map Prod.snd

/-- Drops all pairs of a target, and tells its waiters. -/
def takeAll (registrations : Registrations) (target : Pid) : List Pid × Registrations :=
  (registrations.waitersOf target,
    { pairs := registrations.pairs.filter (·.1 ≠ target)
      nodup := registrations.nodup.filter _ })

/-- What an operation answers, and the pairs after it. -/
def step (registrations : Registrations) : WaitQueue.Operation → WaitQueue.Answer × Registrations
  | .add target waiter => (.done, registrations.add target waiter)
  | .remove target waiter => (.done, registrations.remove target waiter)
  | .takeAll target =>
    (.released (registrations.takeAll target).1, (registrations.takeAll target).2)
  | .countOn target => (.counted (registrations.waitersOf target).length, registrations)

/-- The pairs after operations in order. -/
def run (operations : List WaitQueue.Operation) (registrations : Registrations) : Registrations :=
  operations.foldl (fun registrations operation => (registrations.step operation).2) registrations

theorem run_snoc (operations : List WaitQueue.Operation) (operation : WaitQueue.Operation)
    (registrations : Registrations) :
    registrations.run (operations ++ [operation]) =
      ((registrations.run operations).step operation).2 := by
  simp [run]

theorem mem_waitersOf :
    waiter ∈ registrations.waitersOf target ↔ (target, waiter) ∈ registrations.pairs := by
  simp [waitersOf]

/-! The waiters of one target after each operation; the same equations hold of a wait queue. -/

theorem waitersOf_add (registrations : Registrations) (target waiter other : Pid) :
    (registrations.add target waiter).waitersOf other =
      if target = other ∧ waiter ∉ registrations.waitersOf target then
        registrations.waitersOf target ++ [waiter]
      else registrations.waitersOf other := by
  unfold add
  by_cases present : (target, waiter) ∈ registrations.pairs
  · simp [present, mem_waitersOf.mpr present]
  · have absent : waiter ∉ registrations.waitersOf target := mt mem_waitersOf.mp present
    by_cases same : target = other
    · subst same
      rw [if_pos ⟨rfl, absent⟩]
      simp [present, waitersOf]
    · simp [present, same, waitersOf]

/-- Dropping pairs of other targets changes nothing for a target. -/
theorem waitersOf_filter {keeps : Pid × Pid → Bool}
    (spares : ∀ waiter, keeps (target, waiter) = true) :
    waitersOf ⟨registrations.pairs.filter keeps, registrations.nodup.filter keeps⟩ target =
      registrations.waitersOf target := by
  simp only [waitersOf, List.filter_filter]
  congr 1
  apply List.filter_congr
  rintro ⟨about, waiter⟩ member
  by_cases here : about = target
  · simp [here, spares]
  · simp [here]

theorem waitersOf_remove (registrations : Registrations) (target waiter other : Pid) :
    (registrations.remove target waiter).waitersOf other =
      if target = other then (registrations.waitersOf target).filter (· != waiter)
      else registrations.waitersOf other := by
  by_cases same : target = other
  · subst same
    rw [if_pos rfl]
    simp only [waitersOf, remove, List.filter_map, List.filter_filter]
    congr 1
    apply List.filter_congr
    rintro ⟨about, pid⟩ member
    by_cases here : about = target <;> simp [here, Prod.ext_iff, bne, beq_eq_decide]
  · rw [if_neg same]
    apply waitersOf_filter
    intro pid
    simp [Ne.symm same]

theorem waitersOf_takeAll (registrations : Registrations) (target other : Pid) :
    (registrations.takeAll target).2.waitersOf other =
      if target = other then [] else registrations.waitersOf other := by
  by_cases same : target = other
  · subst same
    simp [waitersOf, takeAll, List.filter_filter]
  · rw [if_neg same]
    apply waitersOf_filter
    intro pid
    simp [Ne.symm same]

end Registrations

/-! ### What the history says -/

namespace WaitQueue

variable {history : List Operation} {operation : Operation} {target waiter : Pid} {place : Nat}

/-- The operation ends the waiting of `waiter` for `target`. -/
def Operation.Ends (target waiter : Pid) (operation : Operation) : Prop :=
  operation = .remove target waiter ∨ operation = .takeAll target

section Ends

variable {about other : Pid}

@[simp] theorem not_ends_add : ¬(Operation.add about other).Ends target waiter := by
  simp [Operation.Ends]

@[simp] theorem not_ends_countOn : ¬(Operation.countOn about).Ends target waiter := by
  simp [Operation.Ends]

@[simp] theorem ends_remove :
    (Operation.remove about other).Ends target waiter ↔ (target, waiter) = (about, other) := by
  simp [Operation.Ends, @eq_comm _ target, @eq_comm _ waiter]

@[simp] theorem ends_takeAll :
    (Operation.takeAll about).Ends target waiter ↔ target = about := by
  simp [Operation.Ends, @eq_comm _ target]

end Ends

/-- The pair was added, and since then it was not removed and its target not released. -/
def Registered (history : List Operation) (target waiter : Pid) : Prop :=
  ∃ earlier later, history = earlier ++ .add target waiter :: later ∧
    ∀ operation ∈ later, ¬operation.Ends target waiter

theorem not_registered_nil : ¬Registered [] target waiter := by
  rintro ⟨earlier, later, split, _⟩
  cases earlier <;> cases split

theorem registered_snoc :
    Registered (history ++ [operation]) target waiter ↔
      operation = .add target waiter ∨
        Registered history target waiter ∧ ¬operation.Ends target waiter := by
  constructor
  · rintro ⟨earlier, later, split, kept⟩
    -- The addition is the last operation itself, or it stands in front of that.
    rcases List.eq_nil_or_concat later with rfl | ⟨shorter, last, rfl⟩
    · rcases List.append_inj' split rfl with ⟨_, same⟩
      cases same
      exact Or.inl rfl
    · rw [List.concat_eq_append, ← List.cons_append, ← List.append_assoc] at split
      rcases List.append_inj' split rfl with ⟨rfl, same⟩
      cases same
      refine Or.inr ⟨⟨earlier, shorter, rfl, ?_⟩, kept _ (by simp)⟩
      intro other member
      exact kept other (by simp [member])
  · rintro (rfl | ⟨⟨earlier, later, rfl, kept⟩, goesOn⟩)
    · exact ⟨history, [], rfl, by simp⟩
    · refine ⟨earlier, later ++ [operation], by simp, ?_⟩
      intro other member
      rcases List.mem_append.mp member with before | last
      · exact kept other before
      · rwa [List.mem_singleton.mp last]

/-- The waiting that still goes on began with the addition at this place of the history. -/
structure Began (history : List Operation) (target waiter : Pid) (place : Nat) : Prop where
  added : history[place]? = some (.add target waiter)
  goesOn : ∀ operation ∈ history.drop (place + 1), ¬operation.Ends target waiter
  /-- The pair was not registered before. -/
  fresh : ¬Registered (history.take place) target waiter

namespace Began

theorem lt (began : Began history target waiter place) : place < history.length := by
  by_contra outside
  have added := began.added
  rw [List.getElem?_eq_none (Nat.le_of_not_lt outside)] at added
  cases added

theorem snoc (began : Began history target waiter place)
    (goesOn : ¬operation.Ends target waiter) :
    Began (history ++ [operation]) target waiter place where
  added := by
    rw [List.getElem?_append_left began.lt]
    exact began.added
  goesOn := by
    rw [List.drop_append_of_le_length began.lt]
    intro other member
    rcases List.mem_append.mp member with before | last
    · exact began.goesOn other before
    · rwa [List.mem_singleton.mp last]
  fresh := by
    rw [List.take_append_of_le_length (Nat.le_of_lt began.lt)]
    exact began.fresh

theorem last (fresh : ¬Registered history target waiter) :
    Began (history ++ [.add target waiter]) target waiter history.length where
  added := by simp
  goesOn := by simp
  fresh := by simpa using fresh

/-- Where the pair was registered by an addition, a later one begins nothing. -/
theorem not_lt {other : Nat} (began : Began history target waiter place)
    (second : Began history target waiter other) : ¬place < other := by
  intro before
  have inside : place < (history.take other).length := by
    rw [List.length_take]
    exact Nat.lt_min.mpr ⟨before, began.lt⟩
  have added : (history.take other)[place] = .add target waiter := by
    have found := began.added
    rw [← List.getElem?_take_of_lt before, List.getElem?_eq_getElem inside] at found
    exact Option.some.inj found
  apply second.fresh
  refine ⟨(history.take other).take place, (history.take other).drop (place + 1), ?_, ?_⟩
  · rw [← added, ← List.drop_eq_getElem_cons inside, List.take_append_drop]
  · intro operation member
    rw [List.drop_take] at member
    exact began.goesOn operation (List.mem_of_mem_take member)

theorem unique {other : Nat} (began : Began history target waiter place)
    (second : Began history target waiter other) : place = other :=
  Nat.le_antisymm (Nat.le_of_not_lt (second.not_lt began)) (Nat.le_of_not_lt (began.not_lt second))

end Began

/-- The waiting of both pairs still goes on, and that of the first one began first. -/
def BeganBefore (history : List Operation) (earlier later : Pid × Pid) : Prop :=
  ∃ first second, Began history earlier.1 earlier.2 first ∧
    Began history later.1 later.2 second ∧ first < second

theorem BeganBefore.snoc {earlier later : Pid × Pid} (before : BeganBefore history earlier later)
    (goesOn : ¬operation.Ends earlier.1 earlier.2) (laterGoesOn : ¬operation.Ends later.1 later.2) :
    BeganBefore (history ++ [operation]) earlier later := by
  rcases before with ⟨first, second, began, laterBegan, before⟩
  exact ⟨first, second, began.snoc goesOn, laterBegan.snoc laterGoesOn, before⟩

/-- The waiting of every pair began somewhere, and the pairs stand in the order of these places. -/
structure InOrder (history : List Operation) (pairs : List (Pid × Pid)) : Prop where
  began : ∀ pair ∈ pairs, ∃ place, Began history pair.1 pair.2 place
  ordered : pairs.Pairwise (BeganBefore history)

namespace InOrder

variable {pairs left : List (Pid × Pid)}

/-- Pairs whose waiting an operation does not end keep their order. -/
theorem snoc (inOrder : InOrder history pairs) (sublist : left.Sublist pairs)
    (goesOn : ∀ pair ∈ left, ¬operation.Ends pair.1 pair.2) :
    InOrder (history ++ [operation]) left where
  began := by
    intro pair member
    rcases inOrder.began pair (sublist.subset member) with ⟨place, began⟩
    exact ⟨place, began.snoc (goesOn pair member)⟩
  ordered := by
    apply (inOrder.ordered.sublist sublist).imp_of_mem
    intro earlier later member laterMember before
    exact before.snoc (goesOn earlier member) (goesOn later laterMember)

/-- A pair that is new to the history stands behind all others. -/
theorem add (inOrder : InOrder history pairs) (fresh : ¬Registered history target waiter) :
    InOrder (history ++ [.add target waiter]) (pairs ++ [(target, waiter)]) := by
  have others : InOrder (history ++ [.add target waiter]) pairs :=
    inOrder.snoc (List.Sublist.refl pairs) fun _ _ => not_ends_add
  refine ⟨?_, ?_⟩
  · intro pair member
    rcases List.mem_append.mp member with before | last
    · exact others.began pair before
    · rw [List.mem_singleton.mp last]
      exact ⟨history.length, Began.last fresh⟩
  · refine List.pairwise_append.mpr ⟨others.ordered, List.pairwise_singleton _ _, ?_⟩
    intro pair member last isLast
    rw [List.mem_singleton.mp isLast]
    rcases inOrder.began pair member with ⟨place, began⟩
    exact ⟨place, history.length, began.snoc not_ends_add, Began.last fresh, began.lt⟩

end InOrder

end WaitQueue

namespace Registrations

open WaitQueue

/-- The pairs are those that the history says, in the order that it says. -/
structure Records (registrations : Registrations) (history : List Operation) : Prop where
  mem_iff : ∀ target waiter,
    (target, waiter) ∈ registrations.pairs ↔ Registered history target waiter
  inOrder : InOrder history registrations.pairs

namespace Records

variable {registrations : Registrations} {history : List Operation} {operation : Operation}

theorem empty : Registrations.empty.Records [] where
  mem_iff target waiter := by simp [Registrations.empty, not_registered_nil]
  inOrder := ⟨by simp [Registrations.empty], List.Pairwise.nil⟩

theorem add (records : registrations.Records history) (target waiter : Pid) :
    (registrations.add target waiter).Records (history ++ [.add target waiter]) := by
  unfold Registrations.add
  split
  · rename_i absent
    refine ⟨?_, records.inOrder.add (mt (records.mem_iff target waiter).mpr absent)⟩
    intro about other
    rw [registered_snoc, List.mem_append, records.mem_iff]
    simp [or_comm, eq_comm]
  · rename_i present
    rw [not_not] at present
    refine ⟨?_, records.inOrder.snoc (List.Sublist.refl _) fun _ _ => not_ends_add⟩
    intro about other
    rw [registered_snoc, records.mem_iff]
    constructor
    · intro registered
      exact Or.inr ⟨registered, not_ends_add⟩
    · rintro (same | ⟨registered, _⟩)
      · cases same
        exact (records.mem_iff _ _).mp present
      · exact registered

/-- An operation that adds nothing drops the pairs whose waiting it ends. -/
theorem filter (records : registrations.Records history) {keeps : Pid × Pid → Bool}
    (adds : ∀ target waiter, operation ≠ .add target waiter)
    (keeps_iff : ∀ pair, keeps pair = true ↔ ¬operation.Ends pair.1 pair.2) :
    Records ⟨registrations.pairs.filter keeps, registrations.nodup.filter keeps⟩
      (history ++ [operation]) where
  mem_iff target waiter := by
    rw [List.mem_filter, keeps_iff, records.mem_iff, registered_snoc]
    simp [adds]
  inOrder := by
    apply records.inOrder.snoc List.filter_sublist
    intro pair member
    exact (keeps_iff pair).mp (List.mem_filter.mp member).2

theorem step (records : registrations.Records history) (operation : Operation) :
    (registrations.step operation).2.Records (history ++ [operation]) := by
  cases operation with
  | add target waiter => exact records.add target waiter
  | remove target waiter =>
      apply records.filter
      · intro about other same
        cases same
      · rintro ⟨about, other⟩
        simp only [decide_eq_true_eq, ends_remove, ne_eq]
  | takeAll target =>
      apply records.filter
      · intro about other same
        cases same
      · rintro ⟨about, other⟩
        simp
  | countOn target =>
      refine ⟨?_, records.inOrder.snoc (List.Sublist.refl _) fun _ _ => not_ends_countOn⟩
      intro about other
      simp [registered_snoc, Registrations.step, records.mem_iff]

theorem run (history : List Operation) : (Registrations.empty.run history).Records history := by
  induction history using List.reverseRecOn with
  | nil => exact empty
  | append_singleton history operation ih =>
      rw [run_snoc]
      exact ih.step operation

theorem pairwise_waitersOf (records : registrations.Records history) (target : Pid) :
    (registrations.waitersOf target).Pairwise fun earlier later =>
      BeganBefore history (target, earlier) (target, later) := by
  apply List.pairwise_map.mpr
  apply (records.inOrder.ordered.filter _).imp_of_mem
  rintro ⟨about, earlier⟩ ⟨alike, later⟩ member laterMember before
  simp only [List.mem_filter, decide_eq_true_eq] at member laterMember
  rcases member.2 with rfl
  rcases laterMember.2 with rfl
  exact before

theorem existsUnique_began (records : registrations.Records history) {target waiter : Pid}
    (registered : Registered history target waiter) :
    ∃! place, Began history target waiter place := by
  rcases records.inOrder.began _ ((records.mem_iff target waiter).mpr registered) with
    ⟨place, began⟩
  exact ⟨place, began, fun other second => second.unique began⟩

end Records

end Registrations

/-! ### The refinement -/

namespace WaitQueue

/-- The queue holds for each target the waiters that the list of pairs names, in its order. -/
def Represents (queue : WaitQueue) (registrations : Registrations) : Prop :=
  ∀ target, queue.waitersOf target = registrations.waitersOf target

namespace Represents

variable {queue : WaitQueue} {registrations : Registrations}

theorem empty : (∅ : WaitQueue).Represents Registrations.empty := fun _ => rfl

theorem answer_eq (represents : queue.Represents registrations) (operation : Operation) :
    (queue.step operation).1 = (registrations.step operation).1 := by
  cases operation with
  | add target waiter => rfl
  | remove target waiter => rfl
  | takeAll target => exact congrArg Answer.released (represents target)
  | countOn target =>
      exact congrArg (fun waiters => Answer.counted waiters.length) (represents target)

theorem step (represents : queue.Represents registrations) (operation : Operation) :
    (queue.step operation).2.Represents (registrations.step operation).2 := by
  intro other
  cases operation with
  | add target waiter =>
      simp only [WaitQueue.step, Registrations.step, waitersOf_add, Registrations.waitersOf_add,
        represents target, represents other]
  | remove target waiter =>
      simp only [WaitQueue.step, Registrations.step, waitersOf_remove,
        Registrations.waitersOf_remove, represents target, represents other]
  | takeAll target =>
      simp only [WaitQueue.step, Registrations.step, waitersOf_takeAll,
        Registrations.waitersOf_takeAll, represents other]
  | countOn target => exact represents other

theorem run (history : List Operation) :
    ((∅ : WaitQueue).run history).Represents (Registrations.empty.run history) := by
  induction history using List.reverseRecOn with
  | nil => exact empty
  | append_singleton history operation ih =>
      rw [run_snoc, Registrations.run_snoc]
      exact ih.step operation

end Represents

/-- What a queue answers after a history: what the list of pairs does, and what the history says. -/
structure Refines (history : List Operation) (queue : WaitQueue) (registrations : Registrations) :
    Prop where
  represents : queue.Represents registrations
  /-- Whatever the next operation is, both answer the same, and still agree after it. -/
  answer_eq : ∀ operation, (queue.step operation).1 = (registrations.step operation).1
  represents_step : ∀ operation,
    (queue.step operation).2.Represents (registrations.step operation).2
  /-- Everybody who is registered for a target is released, nobody else is, and nobody twice. -/
  released_iff : ∀ target waiter,
    waiter ∈ (queue.takeAll target).1 ↔ Registered history target waiter
  released_once : ∀ target, (queue.takeAll target).1.Nodup
  /-- They are released in the order in which their waiting began. -/
  released_in_order : ∀ target, (queue.takeAll target).1.Pairwise fun earlier later =>
    BeganBefore history (target, earlier) (target, later)
  existsUnique_began : ∀ target waiter, Registered history target waiter →
    ∃! place, Began history target waiter place
  none_left : ∀ target, (queue.takeAll target).2.waitersOf target = []
  countOn_eq : ∀ target, queue.countOn target = (queue.takeAll target).1.length
  /-- An operation leaves what is stored for other targets as it is. -/
  others_unchanged : ∀ operation target, operation.target ≠ target →
    (queue.step operation).2.waiters.find? target = queue.waiters.find? target
  /-- Without the operations on other targets, the same would be stored for a target. -/
  independent : ∀ target, queue.waiters.find? target =
    ((∅ : WaitQueue).run
      (history.filter fun operation => operation.target = target)).waiters.find? target
  inhabited : ∀ target, queue.waiters.find? target ≠ some []

/--
Whatever operations an empty wait queue goes through, it answers as one list of pairs does to which
an addition appends a new pair and from which removals and releases drop pairs. Releasing a target
hands over those who are registered for it, each once, in the order in which their waiting began.
-/
theorem operations_refine_list_of_pairs (history : List Operation) :
    Refines history ((∅ : WaitQueue).run history) (Registrations.empty.run history) := by
  have represents := Represents.run history
  have records := Registrations.Records.run history
  have tidy := tidy_empty.run history
  have released (target : Pid) : (((∅ : WaitQueue).run history).takeAll target).1 =
      (Registrations.empty.run history).waitersOf target := represents target
  refine ⟨represents, represents.answer_eq, represents.step, ?_, ?_, ?_, ?_, ?_, ?_, ?_, ?_, ?_⟩
  · intro target waiter
    rw [released, Registrations.mem_waitersOf]
    exact records.mem_iff target waiter
  · exact tidy.nodup
  · intro target
    rw [released]
    exact records.pairwise_waitersOf target
  · intro target waiter
    exact records.existsUnique_began
  · intro target
    rw [waitersOf_takeAll, if_pos rfl]
  · intro target
    rfl
  · intro operation target
    exact find?_step_of_ne
  · exact find?_run_filter history ∅
  · intro target found
    exact (tidy target [] found).1 rfl

/-- A waiter that comes back stands behind those who stayed. -/
example :
    (((∅ : WaitQueue).run
        [.add ⟨2⟩ ⟨1⟩, .add ⟨2⟩ ⟨3⟩, .remove ⟨2⟩ ⟨1⟩, .add ⟨2⟩ ⟨1⟩, .add ⟨2⟩ ⟨3⟩]).takeAll ⟨2⟩).1 =
      [⟨3⟩, ⟨1⟩] := by
  decide

end WaitQueue

end Lifecycle
