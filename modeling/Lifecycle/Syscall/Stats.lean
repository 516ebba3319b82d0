import Lifecycle.Log

/-!
# System call statistics

How often each defined system call was made, and how often an undefined number was.
-/

namespace Lifecycle.Syscall

/-- The counters. -/
structure Stats where
  /-- The calls of each defined number, by its code. -/
  counts : Vector Nat Number.count
  /-- The calls of undefined numbers. -/
  unknown : Nat
  deriving DecidableEq, Repr

namespace Stats

/-- All counters at zero. -/
def zero : Stats := ⟨Vector.replicate Number.count 0, 0⟩

/-- How often a call was made. -/
def count (stats : Stats) (number : Number) : Nat := stats.counts[number.code]

/-- Counts one call. -/
def record (stats : Stats) (number : Number) : Stats :=
  { stats with counts := stats.counts.set number.code (stats.count number + 1) }

/-- Counts one call of an undefined number. -/
def recordUnknown (stats : Stats) : Stats := { stats with unknown := stats.unknown + 1 }

/-- How many calls of defined numbers were made. -/
def total (stats : Stats) : Nat :=
  Number.all.foldr (fun number calls => stats.count number + calls) 0

/-- The calls that were made, with their counts, in the order of their codes. -/
def nonzero (stats : Stats) : List (Number × Nat) :=
  (Number.all.map fun number => (number, stats.count number)).filter fun entry => entry.2 != 0

/-- The counters as log records. -/
def dump (stats : Stats) : List Log.Record :=
  .callTotals stats.total stats.unknown ::
    stats.nonzero.map fun entry => .callCount entry.1 entry.2

theorem code_injective {number other : Number} (same : number.code = other.code) :
    number = other := by
  have := congrArg (fun code : Fin Number.count => Number.ofCode? code.val) same
  simpa [Number.ofCode?_code] using this

theorem count_record (stats : Stats) (number other : Number) :
    (stats.record number).count other =
      if number = other then stats.count number + 1 else stats.count other := by
  by_cases same : number = other
  · subst same
    simp [record, count]
  · have apart : number.code.val ≠ other.code.val :=
      fun equal => same (code_injective (Fin.ext equal))
    simp [record, count, same, Vector.getElem_set_ne _ _ apart]

end Stats

end Lifecycle.Syscall
