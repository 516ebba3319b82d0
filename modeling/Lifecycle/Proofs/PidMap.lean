import Lifecycle.PidMap
import Mathlib.Algebra.BigOperators.Group.List.Basic

/-!
# Contents of maps keyed by pids

A map is determined by its lookups, and every change of a map is an insertion or an erasure. The
values of a map change accordingly: one value comes or goes, and the others are permuted at most.
Quantities that are summed over all entries of a map are computed from these facts alone.
-/

namespace Lifecycle

namespace PidMap

variable {α : Type}

theorem lookup_eq_some_iff {pid : Pid} {value : α} {entries : List (Pid × α)}
    (ascending : AscendingKeys entries) :
    lookup pid entries = some value ↔ (pid, value) ∈ entries := by
  induction entries with
  | nil => simp [lookup]
  | cons entry rest ih =>
      rw [AscendingKeys, List.pairwise_cons] at ascending
      rcases ascending with ⟨smaller, ascending⟩
      rcases entry with ⟨key, other⟩
      have restLookup := ih ascending
      by_cases same : key = pid
      · subst key
        -- A later entry of the same pid would not be larger than the first one.
        have absent : (pid, value) ∉ rest := by
          intro member
          have := smaller (pid, value) member
          simp at this
        simp [lookup, absent, eq_comm]
      · have different : pid ≠ key := Ne.symm same
        simp [lookup, same, different, restLookup]

theorem find?_eq_some_iff_mem (map : PidMap α) (pid : Pid) (value : α) :
    map.find? pid = some value ↔ (pid, value) ∈ map.toList :=
  lookup_eq_some_iff map.ascending

theorem nodup_toList (map : PidMap α) : map.toList.Nodup := by
  apply map.ascending.imp
  intro earlier later before same
  subst same
  omega

/-- Maps with the same entries, in whatever order, hold the same values, in some order. -/
theorem toList_perm_of_mem_iff {entries : List (Pid × α)} (map : PidMap α)
    (nodup : entries.Nodup)
    (same : ∀ pid value, map.find? pid = some value ↔ (pid, value) ∈ entries) :
    map.toList.Perm entries := by
  apply (List.perm_ext_iff_of_nodup map.nodup_toList nodup).mpr
  rintro ⟨pid, value⟩
  rw [← same, find?_eq_some_iff_mem]

/-- A map is determined by its lookups. -/
theorem ext_find? {left right : PidMap α} (same : ∀ pid, left.find? pid = right.find? pid) :
    left = right := by
  have permuted : left.toList.Perm right.toList := by
    apply left.toList_perm_of_mem_iff right.nodup_toList
    intro pid value
    rw [same, find?_eq_some_iff_mem]
  have equal : left.toList = right.toList := by
    apply permuted.eq_of_pairwise _ left.ascending right.ascending
    intro earlier later _ _ before after
    omega
  cases left
  cases right
  simpa using equal

/-! ### Changes as insertions and erasures -/

theorem erase_of_find?_eq_none {map : PidMap α} {pid : Pid} (absent : map.find? pid = none) :
    map.erase pid = map := by
  apply ext_find?
  intro key
  by_cases same : pid = key
  · subst key
    simp [find?_erase, absent]
  · simp [find?_erase, same]

theorem erase_insert (map : PidMap α) (pid : Pid) (value : α) :
    (map.insert pid value).erase pid = map.erase pid := by
  apply ext_find?
  intro key
  by_cases same : pid = key <;> simp [find?_erase, find?_insert, same]

theorem insert_of_find?_eq_some {map : PidMap α} {pid : Pid} {value : α}
    (present : map.find? pid = some value) : map.insert pid value = map := by
  apply ext_find?
  intro key
  by_cases same : pid = key
  · subst key
    simp [find?_insert, present]
  · simp [find?_insert, same]

theorem modify_of_find?_eq_some {map : PidMap α} {pid : Pid} {value : α}
    (present : map.find? pid = some value) (change : α → α) :
    map.modify pid change = map.insert pid (change value) := by
  apply ext_find?
  intro key
  by_cases same : pid = key
  · subst key
    simp [find?_modify, find?_insert, present]
  · simp [find?_modify, find?_insert, same]

/-! ### Values -/

theorem values_insert_perm (map : PidMap α) (pid : Pid) (value : α) :
    (map.insert pid value).values.Perm (value :: (map.erase pid).values) := by
  have fresh : (pid, value) ∉ (map.erase pid).toList := by
    rw [← find?_eq_some_iff_mem, find?_erase]
    simp
  have permuted : (map.insert pid value).toList.Perm ((pid, value) :: (map.erase pid).toList) := by
    apply toList_perm_of_mem_iff
    · exact List.nodup_cons.mpr ⟨fresh, (map.erase pid).nodup_toList⟩
    · intro key other
      rw [List.mem_cons, ← find?_eq_some_iff_mem, find?_erase, find?_insert]
      by_cases same : pid = key
      · subst key
        simp [eq_comm]
      · simp [same, Ne.symm same]
  exact permuted.map Prod.snd

theorem values_perm_of_find?_eq_some {map : PidMap α} {pid : Pid} {value : α}
    (present : map.find? pid = some value) : map.values.Perm (value :: (map.erase pid).values) := by
  have inserted := values_insert_perm map pid value
  rwa [insert_of_find?_eq_some present] at inserted

theorem mem_values_iff (map : PidMap α) (value : α) :
    value ∈ map.values ↔ ∃ pid, map.find? pid = some value := by
  simp [values, find?_eq_some_iff_mem]

/-- A change that a function does not see leaves the values under that function as they are. -/
theorem map_values_modify {β : Type} (map : PidMap α) (pid : Pid) {change : α → α} {view : α → β}
    (unseen : ∀ value, view (change value) = view value) :
    (map.modify pid change).values.map view = map.values.map view := by
  simp only [modify, values, List.map_map]
  apply List.map_congr_left
  intro entry _
  simp only [Function.comp_apply]
  split
  · exact unseen entry.2
  · rfl

/-- A map whose pids lie below a bound has no more entries than the bound says. -/
theorem size_le_of_below {map : PidMap α} {bound : Nat}
    (below : ∀ pid value, map.find? pid = some value → pid.number < bound) :
    map.size ≤ bound := by
  have numbers : (map.toList.map fun entry => entry.1.number).Nodup := by
    apply List.pairwise_map.mpr
    apply map.ascending.imp
    intro earlier later before
    omega
  have contained : (map.toList.map fun entry => entry.1.number) ⊆ List.range bound := by
    intro number member
    rcases List.mem_map.mp member with ⟨⟨pid, value⟩, entry, rfl⟩
    exact List.mem_range.mpr (below pid value ((map.find?_eq_some_iff_mem pid value).mpr entry))
  have bounded := (List.subperm_of_subset numbers contained).length_le
  simpa [size] using bounded

/-! ### Sums over all entries -/

section Sums

variable {M : Type} [AddCommMonoid M] (weight : α → M)

/-- The sum of a quantity over the values of a map. -/
def sum (map : PidMap α) : M := (map.values.map weight).sum

@[simp]
theorem sum_empty : (∅ : PidMap α).sum weight = 0 := rfl

theorem sum_insert (map : PidMap α) (pid : Pid) (value : α) :
    (map.insert pid value).sum weight = weight value + (map.erase pid).sum weight := by
  simpa [sum] using ((values_insert_perm map pid value).map weight).sum_eq

theorem sum_of_find?_eq_some {map : PidMap α} {pid : Pid} {value : α}
    (present : map.find? pid = some value) :
    map.sum weight = weight value + (map.erase pid).sum weight := by
  simpa [sum] using ((values_perm_of_find?_eq_some present).map weight).sum_eq

theorem sum_modify (map : PidMap α) (pid : Pid) {change : α → α}
    (unseen : ∀ value, weight (change value) = weight value) :
    (map.modify pid change).sum weight = map.sum weight := by
  rw [sum, map_values_modify map pid unseen, sum]

theorem sum_eq_zero {map : PidMap α}
    (zero : ∀ pid value, map.find? pid = some value → weight value = 0) : map.sum weight = 0 := by
  apply List.sum_eq_zero
  intro summand member
  rcases List.mem_map.mp member with ⟨value, present, rfl⟩
  rcases (map.mem_values_iff value).mp present with ⟨pid, found⟩
  exact zero pid value found

end Sums

end PidMap

end Lifecycle
