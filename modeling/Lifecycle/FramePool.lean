import Lifecycle.Limits

/-!
# Frame pool

The free frames of a machine's physical memory. Frames that came back last are handed out first, and
a request takes all the frames it asks for or none.

Frame numbers have 32 bits. A pool for a larger memory starts with the frames that the low 32 bits
of its size count, while it still reports the full size.
-/

namespace Lifecycle

/-- The number of a page of physical memory. -/
abbrev Frame := Nat

/-- The physical address at which a frame starts. -/
def Frame.startAddress (frame : Frame) : Nat := frame * pageSize

/-- How many frames a 32-bit frame number can name. -/
def frameNumbers : Nat := values32

/-- The free frames of a memory. -/
structure FramePool where
  /-- The free frames, the one to be handed out next in front. -/
  free : List Frame
  /-- The frames of the whole memory, free or not. -/
  total : Nat
  deriving DecidableEq, Repr

namespace FramePool

/-- The untouched pool of a memory of `total` frames; the lowest frame is handed out first. -/
def ofTotal (total : Nat) : FramePool where
  free := List.range (total % frameNumbers)
  total := total

/-- How many frames are free. -/
def freeCount (pool : FramePool) : Nat := pool.free.length

/--
Hands out `count` frames, or none if fewer are free. The block is listed from the frame that lay
deepest in the pool to the one that lay in front.
-/
def take? (pool : FramePool) (count : Nat) : Option (List Frame × FramePool) :=
  if count ≤ pool.freeCount then
    some ((pool.free.take count).reverse, { pool with free := pool.free.drop count })
  else none

/-- Takes frames back, one after the other, so that the last one is handed out next. -/
def giveBack (pool : FramePool) (frames : List Frame) : FramePool :=
  { pool with free := frames.reverse ++ pool.free }

theorem freeCount_giveBack (pool : FramePool) (frames : List Frame) :
    (pool.giveBack frames).freeCount = frames.length + pool.freeCount := by
  simp [giveBack, freeCount]

theorem take?_eq_none_iff (pool : FramePool) (count : Nat) :
    pool.take? count = none ↔ pool.freeCount < count := by
  simp [take?]

/-- Frames that come straight back leave the pool as it was. -/
theorem giveBack_of_take? {pool rest : FramePool} {count : Nat} {frames : List Frame}
    (taken : pool.take? count = some (frames, rest)) : rest.giveBack frames = pool := by
  unfold take? at taken
  split at taken
  · simp only [Option.some.injEq, Prod.mk.injEq] at taken
    obtain ⟨rfl, rfl⟩ := taken
    simp [giveBack]
  · cases taken

end FramePool

end Lifecycle
