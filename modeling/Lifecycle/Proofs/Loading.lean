import Lifecycle.Proofs.PageAccounts
import Mathlib.Algebra.GroupWithZero.Nat
import Mathlib.Data.List.Induction

/-!
# What a load answers

A load may be hindered by several things at once. Each is stated on its own, over the history of the
registry and the number of free frames, and the loader fails for the first one that applies, in a
fixed order of precedence. Where nothing applies it succeeds. Whether there are too few frames is said
of images whose pages, together with the stack and the arguments, make a number that 64 bits can hold.

The memory is followed over any sequence of loads and teardowns: the free frames and those of the
spaces that are not torn down yet are always the frames of the whole memory, each once. So the
frames of a new space are distinct, and tearing it down at once restores the free list.
-/

namespace Lifecycle

variable {E : Type}

/-! ### Histories of a registry -/

/-- The image was installed under the name, and none after it. -/
def IsCurrent (installs : List (Image E)) (name : String) (image : Image E) : Prop :=
  ∃ earlier later, installs = earlier ++ image :: later ∧ image.name = name ∧
    ∀ other ∈ later, other.name ≠ name

namespace ImageRegistry

variable {installs : List (Image E)} {name : String} {image : Image E}

theorem find?_ofList (installs : List (Image E)) (name : String) :
    (ofList installs).find? name = installs.reverse.find? fun image => image.name == name := by
  induction installs using List.reverseRecOn with
  | nil => rfl
  | append_singleton installs image ih =>
      simp only [ofList, List.foldl_append, List.foldl_cons, List.foldl_nil, List.reverse_append,
        List.reverse_singleton, List.singleton_append, List.find?_cons] at ih ⊢
      rw [find?_install, ih]
      by_cases same : image.name = name
      · simp [same]
      · simp [same, beq_eq_false_iff_ne.mpr same]

theorem find?_ofList_eq_some_iff :
    (ofList installs).find? name = some image ↔ IsCurrent installs name image := by
  rw [find?_ofList, List.find?_eq_some_iff_append]
  constructor
  · rintro ⟨named, later, earlier, split, others⟩
    refine ⟨earlier.reverse, later.reverse, ?_, beq_iff_eq.mp named, ?_⟩
    · rw [← List.reverse_reverse installs, split]
      simp
    · intro other member
      simpa using others other (List.mem_reverse.mp member)
  · rintro ⟨earlier, later, rfl, named, others⟩
    refine ⟨beq_iff_eq.mpr named, later.reverse, earlier.reverse, by simp, ?_⟩
    intro other member
    simpa using others other (List.mem_reverse.mp member)

theorem find?_ofList_eq_none_iff :
    (ofList installs).find? name = none ↔ ∀ image ∈ installs, image.name ≠ name := by
  simp [find?_ofList]

end ImageRegistry

/-- The pages of a process of that name, if there is an image, are a number that 64 bits can hold. -/
def Countable (installs : List (Image E)) (stackPages : Nat) (name : String) : Prop :=
  ∀ image, IsCurrent installs name image → image.pages + stackPages + 1 < values64

/-! ### What hinders a load -/

/-- The place of a cause in the order in which causes are looked for. -/
def LoadError.rank : LoadError → Nat
  | notExecutable => 0
  | notFound => 1
  | argumentTooLong => 2
  | argumentsTooLarge => 3
  | outOfMemory => 4

theorem LoadError.rank_injective : Function.Injective LoadError.rank := by
  intro cause other
  cases cause <;> cases other <;> simp [rank]

theorem LoadError.rank_lt (cause : LoadError) : cause.rank < outOfMemory.rank + 1 := by
  cases cause <;> decide

/--
The cause stands in the way of a load, whatever else does, after the images `installs` and while
`free` frames are free.
-/
def LoadError.Hinders (installs : List (Image E)) (stackPages free : Nat) (name : String)
    (arguments : List String) : LoadError → Prop
  | notExecutable =>
    name = "" ∨ 256 < name.utf8ByteSize ∨ ¬".coff".toList <:+ name.toList
  | notFound => ∀ image ∈ installs, image.name ≠ name
  | argumentTooLong => ∃ argument ∈ arguments, 256 < argument.utf8ByteSize
  | argumentsTooLarge =>
    1024 < (arguments.map fun argument => 4 + argument.utf8ByteSize + 1).sum
  | outOfMemory => ∃ image, IsCurrent installs name image ∧ free < image.pages + stackPages + 1

namespace LoadError

variable (installs : List (Image E)) (stackPages free : Nat) (name : String)
  (arguments : List String)

/-- No cause below the given place stands in the way. -/
def NoneBefore (place : Nat) : Prop :=
  ∀ cause : LoadError, cause.rank < place →
    ¬cause.Hinders installs stackPages free name arguments

/-- The cause stands in the way, and none that is looked for before it does. -/
def IsFirst (cause : LoadError) : Prop :=
  cause.Hinders installs stackPages free name arguments ∧
    NoneBefore installs stackPages free name arguments cause.rank

/-- The answers that the order of the causes calls for. -/
inductive Decides {α : Type} : Except LoadError α → Prop
  | refused {cause : LoadError} (first : IsFirst installs stackPages free name arguments cause) :
      Decides (.error cause)
  | granted {value : α}
      (clear : ∀ cause : LoadError, ¬cause.Hinders installs stackPages free name arguments) :
      Decides (.ok value)

variable {installs stackPages free name arguments} {cause other : LoadError}

theorem noneBefore_zero : NoneBefore installs stackPages free name arguments 0 := by
  intro cause before
  cases before

theorem NoneBefore.succ (cause : LoadError)
    (clear : NoneBefore installs stackPages free name arguments cause.rank)
    (passes : ¬cause.Hinders installs stackPages free name arguments) :
    NoneBefore installs stackPages free name arguments (cause.rank + 1) := by
  intro other before
  rcases Nat.lt_succ_iff_lt_or_eq.mp before with earlier | same
  · exact clear other earlier
  · rw [rank_injective same]
    exact passes

theorem IsFirst.unique (first : cause.IsFirst installs stackPages free name arguments)
    (also : other.IsFirst installs stackPages free name arguments) : cause = other := by
  apply rank_injective
  rcases Nat.lt_trichotomy cause.rank other.rank with before | same | after
  · exact absurd first.1 (also.2 cause before)
  · exact same
  · exact absurd also.1 (first.2 other after)

/-! ### What the loader tests -/

theorem hinders_notExecutable_iff :
    notExecutable.Hinders installs stackPages free name arguments ↔
      isExecutableName name = false := by
  have accepts : isExecutableName name = true ↔
      (name ≠ "" ∧ name.utf8ByteSize ≤ 256) ∧ ".coff".toList <:+ name.toList := by
    simp only [isExecutableName, Bool.and_eq_true, Bool.not_eq_true', ← Bool.not_eq_true,
      String.isEmpty_iff, decide_eq_true_eq, List.isSuffixOf_iff_suffix]
    rfl
  rw [← Bool.not_eq_true, accepts, not_and_or, not_and_or, not_not, Nat.not_le, or_assoc]
  rfl

theorem hinders_notFound_iff :
    notFound.Hinders installs stackPages free name arguments ↔
      (ImageRegistry.ofList installs).find? name = none :=
  ImageRegistry.find?_ofList_eq_none_iff.symm

theorem hinders_argumentTooLong_iff :
    argumentTooLong.Hinders installs stackPages free name arguments ↔
      (arguments.any fun argument => decide (maxTextBytes < argument.utf8ByteSize)) = true := by
  simp only [List.any_eq_true, decide_eq_true_eq]
  rfl

theorem argumentBytes_eq_sum (arguments : List String) :
    argumentBytes arguments = (arguments.map fun argument => 4 + argument.utf8ByteSize + 1).sum := by
  induction arguments with
  | nil => rfl
  | cons argument arguments ih =>
      rw [List.map_cons, List.sum_cons, ← ih]
      rfl

theorem hinders_argumentsTooLarge_iff :
    argumentsTooLarge.Hinders installs stackPages free name arguments ↔
      argumentPages * pageSize < argumentBytes arguments := by
  rw [argumentBytes_eq_sum]
  rfl

theorem hinders_outOfMemory_iff {loader : Loader E} {image : Image E}
    (countable : Countable installs loader.stackPages name)
    (found : (ImageRegistry.ofList installs).find? name = some image) :
    outOfMemory.Hinders installs loader.stackPages loader.freePages name arguments ↔
      loader.pool.take? (loader.pagesFor image) = none := by
  have current := ImageRegistry.find?_ofList_eq_some_iff.mp found
  rw [FramePool.take?_eq_none_iff, Loader.pagesFor_of_lt (countable image current)]
  constructor
  · rintro ⟨other, also, few⟩
    rw [← ImageRegistry.find?_ofList_eq_some_iff, found, Option.some.injEq] at also
    subst other
    exact few
  · exact fun few => ⟨image, current, few⟩

end LoadError

namespace Loader

variable {loader next : Loader E} {installs : List (Image E)} {stackPages : Nat} {name : String}
  {arguments : List String} {cause : LoadError} {loaded : LoadedImage E}

/-- The loader has the images `installs` and gives each process so much stack. -/
structure Equipped (installs : List (Image E)) (stackPages : Nat) (loader : Loader E) : Prop where
  registry_eq : loader.registry = .ofList installs
  stackPages_eq : loader.stackPages = stackPages

section Equipped

variable (equipped : loader.Equipped installs stackPages)
  (countable : Countable installs stackPages name)

include equipped countable

/-- The loader looks for the causes in their order, and goes on where none applies. -/
theorem Equipped.decides_load (arguments : List String) :
    LoadError.Decides installs stackPages loader.freePages name arguments
      (loader.load name arguments) := by
  rcases equipped with ⟨installed, rfl⟩
  unfold load
  rw [installed]
  have clear : LoadError.NoneBefore installs loader.stackPages loader.freePages name arguments 0 :=
    LoadError.noneBefore_zero
  split
  · rename_i malformed
    exact .refused ⟨LoadError.hinders_notExecutable_iff.mpr (by simpa using malformed), clear⟩
  · rename_i executable
    replace clear := clear.succ .notExecutable
      (mt LoadError.hinders_notExecutable_iff.mp (by simpa using executable))
    split
    · rename_i absent
      exact .refused ⟨LoadError.hinders_notFound_iff.mpr absent, clear⟩
    · rename_i image found
      replace clear := clear.succ .notFound
        (mt LoadError.hinders_notFound_iff.mp (by simp [found]))
      split
      · rename_i long
        exact .refused ⟨LoadError.hinders_argumentTooLong_iff.mpr long, clear⟩
      · rename_i brief
        replace clear := clear.succ .argumentTooLong
          (mt LoadError.hinders_argumentTooLong_iff.mp brief)
        split
        · rename_i large
          exact .refused ⟨LoadError.hinders_argumentsTooLarge_iff.mpr large, clear⟩
        · rename_i small
          replace clear := clear.succ .argumentsTooLarge
            (mt LoadError.hinders_argumentsTooLarge_iff.mp small)
          split
          · rename_i unavailable
            exact .refused
              ⟨(LoadError.hinders_outOfMemory_iff countable found).mpr unavailable, clear⟩
          · rename_i frames pool taken
            replace clear := clear.succ .outOfMemory
              (mt (LoadError.hinders_outOfMemory_iff countable found).mp (by simp [taken]))
            exact .granted fun cause => clear cause cause.rank_lt

theorem Equipped.load_eq_error_iff :
    loader.load name arguments = .error cause ↔
      cause.IsFirst installs stackPages loader.freePages name arguments := by
  have decides := equipped.decides_load countable arguments
  constructor
  · intro failed
    rw [failed] at decides
    cases decides with
    | refused first => exact first
  · intro first
    generalize loader.load name arguments = answer at decides ⊢
    cases decides with
    | refused also => rw [also.unique first]
    | granted clear => exact absurd first.1 (clear cause)

theorem Equipped.exists_load_iff :
    (∃ loaded next, loader.load name arguments = .ok (loaded, next)) ↔
      ∀ cause : LoadError, ¬cause.Hinders installs stackPages loader.freePages name arguments := by
  have decides := equipped.decides_load countable arguments
  constructor
  · rintro ⟨loaded, next, built⟩
    rw [built] at decides
    cases decides with
    | granted clear => exact clear
  · intro clear
    generalize loader.load name arguments = answer at decides ⊢
    cases decides with
    | refused first => exact absurd first.1 (clear _)
    | @granted result _ => exact ⟨result.1, result.2, rfl⟩

end Equipped

/-- A load takes its frames off the front of the free list. -/
theorem free_of_load (built : loader.load name arguments = .ok (loaded, next)) :
    loader.pool.free = loaded.space.frames.reverse ++ next.pool.free := by
  rw [← unload_of_load built]
  rfl

end Loader

/-! ### Memories in use -/

/-- A loader with the spaces that were built and not torn down yet. -/
structure Memory (E : Type) where
  loader : Loader E
  spaces : List AddressSpace

namespace Memory

/-- Something that is done with a memory. -/
inductive Use where
  | load (name : String) (arguments : List String)
  /-- Tears down the space of a place, if there is one. -/
  | unload (place : Nat)
  deriving DecidableEq, Repr

/-- The memory after a use; a load that fails leaves it as it is. -/
def step (memory : Memory E) : Use → Memory E
  | .load name arguments =>
    match memory.loader.load name arguments with
    | .ok (loaded, next) => ⟨next, loaded.space :: memory.spaces⟩
    | .error _ => memory
  | .unload place =>
    match memory.spaces[place]? with
    | some space => ⟨memory.loader.unload space, memory.spaces.eraseIdx place⟩
    | none => memory

/-- An untouched memory. -/
def fresh (installs : List (Image E)) (physPages stackPages : Nat) : Memory E :=
  ⟨.ofRegistry (.ofList installs) physPages stackPages, []⟩

/-- The memory after uses in order. -/
def run (memory : Memory E) (uses : List Use) : Memory E := uses.foldl step memory

/-- The frames that spaces hold. -/
def held (memory : Memory E) : List Frame := memory.spaces.flatMap AddressSpace.frames

/-- What holds of a memory of `physPages` pages however it is used. -/
structure Sound (installs : List (Image E)) (physPages stackPages : Nat) (memory : Memory E) :
    Prop where
  equipped : memory.loader.Equipped installs stackPages
  /-- Every frame is free or held by one space. -/
  conserved : (memory.loader.pool.free ++ memory.held).Perm
    (List.range (physPages % frameNumbers))

variable {installs : List (Image E)} {physPages stackPages : Nat} {memory : Memory E}

theorem sound_fresh (installs : List (Image E)) (physPages stackPages : Nat) :
    (fresh installs physPages stackPages).Sound installs physPages stackPages where
  equipped := ⟨rfl, rfl⟩
  conserved := by simp [fresh, held, Loader.ofRegistry, FramePool.ofTotal]

/-- A load moves frames from the free list to the new space, a teardown moves them back. -/
theorem Sound.step (sound : memory.Sound installs physPages stackPages) (use : Use) :
    (memory.step use).Sound installs physPages stackPages := by
  rcases sound with ⟨⟨installed, stack⟩, conserved⟩
  cases use with
  | load name arguments =>
      simp only [Memory.step]
      split
      · rename_i loaded next built
        rcases Loader.load_eq_ok built with ⟨_, _, _, _, rest⟩
        refine ⟨⟨?_, ?_⟩, ?_⟩
        · rw [rest]
          exact installed
        · rw [rest]
          exact stack
        · refine List.Perm.trans ?_ conserved
          rw [Loader.free_of_load built, held, List.flatMap_cons, ← held, ← List.append_assoc]
          apply List.Perm.append_right
          exact List.perm_append_comm.trans (List.Perm.append_right _ (List.reverse_perm _).symm)
      · exact ⟨⟨installed, stack⟩, conserved⟩
  | unload place =>
      simp only [Memory.step]
      split
      · rename_i space found
        refine ⟨⟨installed, stack⟩, List.Perm.trans ?_ conserved⟩
        have placed : (space :: memory.spaces.eraseIdx place).Perm memory.spaces := by
          rcases List.getElem?_eq_some_iff.mp found with ⟨inside, rfl⟩
          exact List.getElem_cons_eraseIdx_perm inside
        have parted := placed.flatMap_right AddressSpace.frames
        refine List.Perm.trans ?_ (parted.append_left memory.loader.pool.free)
        simp only [Loader.unload, FramePool.giveBack, held, List.flatMap_cons]
        rw [← List.append_assoc]
        apply List.Perm.append_right
        exact List.perm_append_comm.trans (List.Perm.append_left _ (List.reverse_perm _))
      · exact ⟨⟨installed, stack⟩, conserved⟩

theorem Sound.run (sound : memory.Sound installs physPages stackPages) (uses : List Use) :
    (memory.run uses).Sound installs physPages stackPages := by
  induction uses generalizing memory with
  | nil => exact sound
  | cons use uses ih => exact ih (sound.step use)

/-- What a load has built, and what it took for that. -/
structure Builds (installs : List (Image E)) (stackPages : Nat) (memory : Memory E)
    (name : String) (arguments : List String) (loaded : LoadedImage E) (next : Loader E) :
    Prop where
  /-- It is built from the image installed last under the name. -/
  current : ∃ image, IsCurrent installs name image ∧ loaded.entry = image.entry ∧
    (Countable installs stackPages name →
      loaded.space.pageCount = image.pages + stackPages + 1)
  image_eq : loaded.space.image = name
  arguments_eq : loaded.space.arguments = arguments
  distinct : loaded.space.frames.Nodup
  /-- The frames of the space are gone from the free list, which is otherwise as it was. -/
  taken : memory.loader.pool.free = loaded.space.frames.reverse ++ next.pool.free
  not_free : ∀ frame ∈ loaded.space.frames, frame ∉ next.pool.free
  not_held : ∀ frame ∈ loaded.space.frames, frame ∉ memory.held
  total_eq : next.pool.total = memory.loader.pool.total
  rest_eq : next = { memory.loader with pool := next.pool }
  /-- Tearing the space down at once gives back the loader, the free list in its order. -/
  undone : next.unload loaded.space = memory.loader

theorem Sound.builds (sound : memory.Sound installs physPages stackPages) {name : String}
    {arguments : List String} {loaded : LoadedImage E} {next : Loader E}
    (built : memory.loader.load name arguments = .ok (loaded, next)) :
    memory.Builds installs stackPages name arguments loaded next := by
  rcases sound with ⟨⟨installed, rfl⟩, conserved⟩
  rcases Loader.load_eq_ok built with ⟨image, found, frames, parts, rest⟩
  have taken := Loader.free_of_load built
  have undone := Loader.unload_of_load built
  have nodup := conserved.nodup_iff.mpr List.nodup_range
  rw [taken, List.append_assoc] at nodup
  rcases List.nodup_append.mp nodup with ⟨distinct, _, apart⟩
  rw [installed] at found
  have current := ImageRegistry.find?_ofList_eq_some_iff.mp found
  refine ⟨⟨image, current, ?_, ?_⟩, ?_, ?_, ?_, taken, ?_, ?_, ?_, rest, undone⟩
  · rw [parts]
  · intro countable
    exact (FramePool.length_of_take? frames).trans
      (Loader.pagesFor_of_lt (countable image current))
  · rw [parts]
  · rw [parts]
  · exact List.nodup_reverse.mp distinct
  · intro frame member free
    exact apart frame (List.mem_reverse.mpr member) frame (List.mem_append_left _ free) rfl
  · intro frame member other
    exact apart frame (List.mem_reverse.mpr member) frame (List.mem_append_right _ other) rfl
  · rw [← undone]
    rfl

/-- What a load answers in a memory, and what it leaves. -/
structure Answers (installs : List (Image E)) (stackPages : Nat) (memory : Memory E)
    (name : String) (arguments : List String) : Prop where
  /-- It fails for the first cause that applies. -/
  error_iff : Countable installs stackPages name →
    ∀ cause, memory.loader.load name arguments = .error cause ↔
      cause.IsFirst installs stackPages memory.loader.freePages name arguments
  /-- It succeeds where none does. -/
  ok_iff : Countable installs stackPages name →
    ((∃ loaded next, memory.loader.load name arguments = .ok (loaded, next)) ↔
      ∀ cause : LoadError,
        ¬cause.Hinders installs stackPages memory.loader.freePages name arguments)
  /-- A failure takes nothing. -/
  unchanged : ∀ cause, memory.loader.load name arguments = .error cause →
    memory.step (.load name arguments) = memory
  builds : ∀ loaded next, memory.loader.load name arguments = .ok (loaded, next) →
    memory.Builds installs stackPages name arguments loaded next

/--
Whatever was installed, in whatever order, and however the memory was used before, a load fails for
the first cause that applies and takes nothing, or it builds the space of the image installed last
under the name, from distinct frames that an immediate teardown puts back where they were.
-/
theorem loads_are_all_or_nothing (installs : List (Image E)) (physPages stackPages : Nat)
    (uses : List Use) (name : String) (arguments : List String) :
    ((fresh installs physPages stackPages).run uses).Answers installs stackPages name
      arguments := by
  have sound := (sound_fresh installs physPages stackPages).run uses
  refine ⟨?_, ?_, ?_, ?_⟩
  · intro countable cause
    exact sound.equipped.load_eq_error_iff countable
  · intro countable
    exact sound.equipped.exists_load_iff countable
  · intro cause failed
    simp only [Memory.step, failed]
  · intro loaded next built
    exact sound.builds built

end Memory

end Lifecycle
