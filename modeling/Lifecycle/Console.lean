/-!
# Console

The character device that all processes share: a queue of input bytes, and an output to which bytes
are only ever appended. A mirror, if there is one, receives every chunk that is written.
-/

namespace Lifecycle

/-- The console of a machine. -/
structure Console where
  /-- The input bytes that nobody has read, the oldest in front. -/
  input : List UInt8 := []
  /-- The chunks written so far, the latest in front. -/
  written : List (List UInt8) := []
  /-- The chunks that a mirror of the output has received, the latest in front, if there is one. -/
  mirrored : Option (List (List UInt8)) := none
  deriving DecidableEq, Repr

namespace Console

/-- A console whose output is mirrored. -/
def withMirror : Console := { mirrored := some [] }

/-- Everything written so far. -/
def output (console : Console) : List UInt8 := console.written.reverse.flatten

/-- Everything that the mirror has received. -/
def mirror? (console : Console) : Option (List UInt8) :=
  console.mirrored.map fun chunks => chunks.reverse.flatten

/-- Queues input behind what is there. -/
def push (console : Console) (bytes : List UInt8) : Console :=
  { console with input := console.input ++ bytes }

/-- Appends to the output, and tells how many bytes were written. -/
def write (console : Console) (bytes : List UInt8) : Nat × Console :=
  (bytes.length,
    { console with
      written := bytes :: console.written
      mirrored := console.mirrored.map (bytes :: ·) })

/-- Moves input into the front of a buffer, as much as there is and fits, and tells how much. -/
def read (console : Console) (buffer : List UInt8) : Nat × List UInt8 × Console :=
  let count := min buffer.length console.input.length
  (count, console.input.take count ++ buffer.drop count,
    { console with input := console.input.drop count })

@[simp] theorem output_write (console : Console) (bytes : List UInt8) :
    (console.write bytes).2.output = console.output ++ bytes := by
  simp [write, output]

@[simp] theorem mirror?_write (console : Console) (bytes : List UInt8) :
    (console.write bytes).2.mirror? = console.mirror?.map (· ++ bytes) := by
  simp [write, mirror?, Function.comp_def]

theorem input_read (console : Console) (buffer : List UInt8) :
    (console.read buffer).2.1.take (console.read buffer).1 ++ (console.read buffer).2.2.input =
      console.input := by
  have bound : min buffer.length console.input.length ≤ console.input.length := Nat.min_le_right ..
  simp [read, bound]

theorem length_read (console : Console) (buffer : List UInt8) :
    (console.read buffer).2.1.length = buffer.length := by
  simp only [read, List.length_append, List.length_take, List.length_drop]
  omega

end Console

end Lifecycle
