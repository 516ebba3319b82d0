import Lifecycle.PidMap

/-!
# Wait queue

Which processes wait for which process to end, so that an exit wakes its waiters and nobody else.

The waiters of one target are kept in the order in which they came, each once, and a target without
waiters has no entry.
-/

namespace Lifecycle

/-- The waiting processes, by the process they wait for. -/
structure WaitQueue where
  waiters : PidMap (List Pid)
  deriving DecidableEq, Repr

namespace WaitQueue

/-- The queue in which nobody waits. -/
def empty : WaitQueue := ⟨.empty⟩

instance : EmptyCollection WaitQueue := ⟨empty⟩

/-- The processes that wait for `target`, in the order in which they came. -/
def waitersOf (queue : WaitQueue) (target : Pid) : List Pid :=
  (queue.waiters.find? target).getD []

/-- How many processes wait for `target`. -/
def countOn (queue : WaitQueue) (target : Pid) : Nat := (queue.waitersOf target).length

/-- Lets `waiter` wait for `target`; it keeps its place if it waits already. -/
def add (queue : WaitQueue) (target waiter : Pid) : WaitQueue :=
  if (queue.waitersOf target).contains waiter then queue
  else ⟨queue.waiters.insert target (queue.waitersOf target ++ [waiter])⟩

/-- Lets `waiter` no longer wait for `target`. -/
def remove (queue : WaitQueue) (target waiter : Pid) : WaitQueue :=
  match queue.waiters.find? target with
  | none => queue
  | some waiting =>
    let remaining := waiting.filter (· != waiter)
    if remaining.isEmpty then ⟨queue.waiters.erase target⟩
    else ⟨queue.waiters.insert target remaining⟩

/-- Releases everybody who waits for `target`. -/
def takeAll (queue : WaitQueue) (target : Pid) : List Pid × WaitQueue :=
  (queue.waitersOf target, ⟨queue.waiters.erase target⟩)

theorem waitersOf_add (queue : WaitQueue) (target waiter other : Pid) :
    (queue.add target waiter).waitersOf other =
      if target = other ∧ waiter ∉ queue.waitersOf target then queue.waitersOf target ++ [waiter]
      else queue.waitersOf other := by
  by_cases same : target = other <;> by_cases waiting : waiter ∈ queue.waitersOf target <;>
    simp_all [add, waitersOf, PidMap.find?_insert]

theorem waitersOf_remove (queue : WaitQueue) (target waiter other : Pid) :
    (queue.remove target waiter).waitersOf other =
      if target = other then (queue.waitersOf target).filter (· != waiter)
      else queue.waitersOf other := by
  unfold remove
  by_cases same : target = other
  · subst same
    cases found : queue.waiters.find? target with
    | none => simp [waitersOf, found]
    | some waiting =>
      by_cases gone : (waiting.filter (· != waiter)).isEmpty
      · simp [waitersOf, found, PidMap.find?_erase, List.isEmpty_iff.1 gone]
      · simp [waitersOf, found, gone, PidMap.find?_insert]
  · cases found : queue.waiters.find? target with
    | none => simp [same]
    | some waiting =>
      by_cases gone : (waiting.filter (· != waiter)).isEmpty
      · simp [waitersOf, gone, same, PidMap.find?_erase]
      · simp [waitersOf, gone, same, PidMap.find?_insert]

theorem waitersOf_takeAll (queue : WaitQueue) (target other : Pid) :
    (queue.takeAll target).2.waitersOf other =
      if target = other then [] else queue.waitersOf other := by
  by_cases same : target = other <;> simp [takeAll, waitersOf, PidMap.find?_erase, same]

end WaitQueue

end Lifecycle
