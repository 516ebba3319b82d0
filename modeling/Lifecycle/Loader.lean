import Lifecycle.Image
import Lifecycle.Log

/-!
# Loader

Builds the address space of a new process: code and data, stack, and one page of arguments. Either
all the frames of a space are taken or none.

A name or an argument vector may have several faults at once. They are looked for in a fixed order:
the form of the name, its presence in the registry, the length of each argument, the room that all
of them take, and the free frames.
-/

namespace Lifecycle

/-- Bytes of the slot that points to one argument. -/
def argumentSlotBytes : Nat := 4

/-- The room that arguments take: a slot, the text and a terminating byte for each. -/
def argumentBytes (arguments : List String) : Nat :=
  arguments.foldr (fun argument bytes => argumentSlotBytes + argument.utf8ByteSize + 1 + bytes) 0

/-- Whether a name has the form of an executable image's name. -/
def isExecutableName (name : String) : Bool :=
  !name.isEmpty && decide (name.utf8ByteSize ≤ maxTextBytes) &&
    executableSuffix.toList.isSuffixOf name.toList

/-- The images of a machine and the memory that they are loaded into. -/
structure Loader (E : Type) where
  registry : ImageRegistry E
  pool : FramePool
  /-- Stack pages of each process. -/
  stackPages : Nat
  deriving DecidableEq, Repr

namespace Loader

variable {E : Type}

/-- The loader of a machine with an untouched memory. -/
def ofRegistry (registry : ImageRegistry E) (physPages stackPages : Nat) : Loader E where
  registry := registry
  pool := .ofTotal physPages
  stackPages := stackPages

/-- The free frames. -/
def freePages (loader : Loader E) : Nat := loader.pool.freeCount

/-- The frames of the whole memory. -/
def totalPages (loader : Loader E) : Nat := loader.pool.total

/-- The pages that a process of an image gets: the sum of its parts, as a number of 64 bits. -/
def pagesFor (loader : Loader E) (image : Image E) : Nat :=
  (image.pages + loader.stackPages + argumentPages) % values64

/-- Builds the address space of the image `name` with the given arguments. -/
def load (loader : Loader E) (name : String) (arguments : List String) :
    Except LoadError (LoadedImage E × Loader E) :=
  if !isExecutableName name then .error .notExecutable
  else
    match loader.registry.find? name with
    | none => .error .notFound
    | some image =>
      if arguments.any fun argument => decide (maxTextBytes < argument.utf8ByteSize) then
        .error .argumentTooLong
      else if argumentPages * pageSize < argumentBytes arguments then
        .error .argumentsTooLarge
      else
        match loader.pool.take? (loader.pagesFor image) with
        | none => .error .outOfMemory
        | some (frames, pool) =>
          .ok (⟨image.entry, ⟨name, frames, arguments⟩⟩, { loader with pool := pool })

/-- Tears an address space down and takes its frames back. -/
def unload (loader : Loader E) (space : AddressSpace) : Loader E :=
  { loader with pool := loader.pool.giveBack space.frames }

/-- What is reported of a space that was built, where `loader` is what building it left. -/
def loadedRecord (loader : Loader E) (space : AddressSpace) : Log.Record :=
  .loaded space.image space.pageCount loader.freePages

/-- What is reported of a space that is torn down. -/
def unloadedRecord (space : AddressSpace) : Log.Record :=
  .unloaded space.image space.pageCount

end Loader

end Lifecycle
