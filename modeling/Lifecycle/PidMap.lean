import Lifecycle.Process

/-!
# Maps keyed by pids

A finite map from pids to values, kept as a list of entries with ascending pids, so that one map has
one list and a listing comes out in pid order.

Each operation has its equation through `find?`, and two maps with the same lookups are equal.
-/

namespace Lifecycle

/-- The entries have strictly ascending pids. -/
abbrev AscendingKeys {α : Type} (entries : List (Pid × α)) : Prop :=
  entries.Pairwise fun earlier later => earlier.1.number < later.1.number

/-- A finite map from pids to values. -/
structure PidMap (α : Type) where
  /-- The entries by ascending pid. -/
  toList : List (Pid × α)
  ascending : AscendingKeys toList := by simp
  deriving DecidableEq, Repr

namespace PidMap

variable {α : Type}

/-- The value stored under a pid in a list of entries. -/
def lookup (pid : Pid) : List (Pid × α) → Option α
  | [] => none
  | (key, value) :: rest => if key = pid then some value else lookup pid rest

/-- Places an entry before the first larger pid, in place of an entry of the same pid. -/
def place (pid : Pid) (value : α) : List (Pid × α) → List (Pid × α)
  | [] => [(pid, value)]
  | (key, other) :: rest =>
    if pid.number < key.number then (pid, value) :: (key, other) :: rest
    else if pid = key then (pid, value) :: rest
    else (key, other) :: place pid value rest

theorem mem_place {pid : Pid} {value : α} {entry : Pid × α} :
    ∀ {entries : List (Pid × α)}, entry ∈ place pid value entries →
      entry = (pid, value) ∨ entry ∈ entries
  | [], member => by simpa [place] using member
  | (key, other) :: rest, member => by
    unfold place at member
    split at member
    · simpa using member
    · split at member
      · simp only [List.mem_cons] at member ⊢
        exact member.imp id Or.inr
      · simp only [List.mem_cons] at member ⊢
        rcases member with here | later
        · exact Or.inr (Or.inl here)
        · exact (mem_place later).imp id Or.inr

theorem ascending_place {pid : Pid} {value : α} :
    ∀ {entries : List (Pid × α)}, AscendingKeys entries → AscendingKeys (place pid value entries)
  | [], _ => by simp [place]
  | (key, other) :: rest, sorted => by
    rw [AscendingKeys, List.pairwise_cons] at sorted
    unfold place
    split
    next before =>
      refine List.pairwise_cons.2 ⟨fun entry member => ?_, List.pairwise_cons.2 sorted⟩
      rcases List.mem_cons.1 member with here | later
      · simpa [here] using before
      · exact Nat.lt_trans before (sorted.1 entry later)
    next notBefore =>
      split
      next same =>
        exact List.pairwise_cons.2 ⟨fun entry member => same ▸ sorted.1 entry member, sorted.2⟩
      next different =>
        refine List.pairwise_cons.2 ⟨fun entry member => ?_, ascending_place sorted.2⟩
        rcases mem_place member with here | later
        · have unequal : pid.number ≠ key.number := fun same => different (Pid.ext same)
          have after : key.number < pid.number := by omega
          simpa [here] using after
        · exact sorted.1 entry later

/-- The map without entries. -/
def empty : PidMap α := { toList := [] }

instance : EmptyCollection (PidMap α) := ⟨empty⟩

instance : Inhabited (PidMap α) := ⟨empty⟩

/-- The value stored under a pid. -/
def find? (map : PidMap α) (pid : Pid) : Option α := lookup pid map.toList

/-- Whether a pid has an entry. -/
def contains (map : PidMap α) (pid : Pid) : Bool := (map.find? pid).isSome

/-- The pids that have entries, ascending. -/
def keys (map : PidMap α) : List Pid := map.toList.map (·.1)

/-- The stored values, by ascending pid. -/
def values (map : PidMap α) : List α := map.toList.map (·.2)

/-- The number of entries. -/
def size (map : PidMap α) : Nat := map.toList.length

/-- Stores a value under a pid, in place of an earlier one. -/
def insert (map : PidMap α) (pid : Pid) (value : α) : PidMap α where
  toList := place pid value map.toList
  ascending := ascending_place map.ascending

/-- Drops the entry of a pid. -/
def erase (map : PidMap α) (pid : Pid) : PidMap α where
  toList := map.toList.filter fun entry => entry.1 != pid
  ascending := map.ascending.filter _

/-- Applies a function to the value of a pid, if it has one. -/
def modify (map : PidMap α) (pid : Pid) (change : α → α) : PidMap α where
  toList := map.toList.map fun entry => if entry.1 = pid then (entry.1, change entry.2) else entry
  ascending := by
    have key (entry : Pid × α) :
        (if entry.1 = pid then (entry.1, change entry.2) else entry).1 = entry.1 := by
      split <;> rfl
    refine List.pairwise_map.2 (map.ascending.imp fun {earlier later} before => ?_)
    rw [key, key]
    exact before

theorem lookup_place (pid key : Pid) (value : α) (entries : List (Pid × α)) :
    lookup key (place pid value entries) = if pid = key then some value else lookup key entries := by
  induction entries with
  | nil => simp [place, lookup]
  | cons entry rest ih => grind [place, lookup]

theorem lookup_filter (pid key : Pid) (entries : List (Pid × α)) :
    lookup key (entries.filter fun entry => entry.1 != pid) =
      if pid = key then none else lookup key entries := by
  induction entries with
  | nil => simp [lookup]
  | cons entry rest ih =>
    by_cases dropped : entry.1 = pid <;> by_cases found : pid = key <;>
      grind [lookup]

theorem lookup_map (pid key : Pid) (change : α → α) (entries : List (Pid × α)) :
    lookup key (entries.map fun entry =>
        if entry.1 = pid then (entry.1, change entry.2) else entry) =
      if pid = key then (lookup key entries).map change else lookup key entries := by
  induction entries with
  | nil => simp [lookup]
  | cons entry rest ih => grind [lookup]

@[simp] theorem find?_empty (pid : Pid) : (empty : PidMap α).find? pid = none := rfl

theorem find?_insert (map : PidMap α) (pid key : Pid) (value : α) :
    (map.insert pid value).find? key = if pid = key then some value else map.find? key :=
  lookup_place pid key value map.toList

theorem find?_erase (map : PidMap α) (pid key : Pid) :
    (map.erase pid).find? key = if pid = key then none else map.find? key :=
  lookup_filter pid key map.toList

theorem find?_modify (map : PidMap α) (pid key : Pid) (change : α → α) :
    (map.modify pid change).find? key =
      if pid = key then (map.find? key).map change else map.find? key :=
  lookup_map pid key change map.toList

end PidMap

/-- A finite set of pids. -/
abbrev PidSet := PidMap Unit

end Lifecycle
