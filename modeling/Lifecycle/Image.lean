import Lifecycle.FramePool

/-!
# Executable images

The images installed on a machine and the address spaces that are built from them.

An image carries an entry point of any type `E`: the kernel hands it to the execution engine and
never looks inside. A registry holds at most one image of each name.
-/

namespace Lifecycle

/-- An installed image. -/
structure Image (E : Type) where
  /-- The name under which programs ask for it. -/
  name : String
  /-- Pages of code and data. -/
  pages : Nat
  /-- Where the execution engine starts the program. -/
  entry : E
  deriving DecidableEq, Repr

/-- The images installed on a machine. -/
structure ImageRegistry (E : Type) where
  /-- The images, the one installed last in front. -/
  images : List (Image E)
  distinct : (images.map Image.name).Nodup := by simp
  deriving DecidableEq, Repr

namespace ImageRegistry

variable {E : Type}

/-- The registry without images. -/
def empty : ImageRegistry E := { images := [] }

instance : EmptyCollection (ImageRegistry E) := ⟨empty⟩

/-- Installs an image, in place of an earlier one of its name. -/
def install (registry : ImageRegistry E) (image : Image E) : ImageRegistry E where
  images := image :: registry.images.filter fun other => other.name != image.name
  distinct := by
    refine List.nodup_cons.2 ⟨fun member => ?_, ?_⟩
    · obtain ⟨other, kept, same⟩ := List.mem_map.1 member
      simp [same] at kept
    · exact registry.distinct.sublist ((List.filter_sublist).map _)

/-- The registry with the given images, installed in order. -/
def ofList (images : List (Image E)) : ImageRegistry E := images.foldl install empty

/-- The image of a name. -/
def find? (registry : ImageRegistry E) (name : String) : Option (Image E) :=
  registry.images.find? fun image => image.name == name

/-- The installed names in ascending order. -/
def names (registry : ImageRegistry E) : List String :=
  (registry.images.map Image.name).mergeSort fun earlier later => decide (earlier ≤ later)

/-- The number of installed images. -/
def size (registry : ImageRegistry E) : Nat := registry.images.length

theorem find?_install (registry : ImageRegistry E) (image : Image E) (name : String) :
    (registry.install image).find? name =
      if image.name = name then some image else registry.find? name := by
  unfold install find?
  by_cases same : image.name = name
  · simp [same]
  · simp only [List.find?_cons, List.find?_filter, same, if_false, beq_eq_false_iff_ne.2 same]
    congr 1
    funext other
    by_cases found : other.name = name
    · simp [found, Ne.symm same]
    · simp [found]

end ImageRegistry

/-- The memory of one process. -/
structure AddressSpace where
  /-- The name of the image it was built from. -/
  image : String
  /-- The frames that back code, stack and arguments. -/
  frames : List Frame
  /-- The arguments, copied from the parent. -/
  arguments : List String
  deriving DecidableEq, Repr

/-- The pages that an address space maps. -/
def AddressSpace.pageCount (space : AddressSpace) : Nat := space.frames.length

/-- A program in memory, ready to be started. -/
structure LoadedImage (E : Type) where
  entry : E
  space : AddressSpace
  deriving DecidableEq, Repr

end Lifecycle
