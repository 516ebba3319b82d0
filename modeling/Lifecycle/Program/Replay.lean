import Lifecycle.Console
import Lifecycle.Program
import Lifecycle.Syscall.Call

/-!
# Replay

Runs a program without a kernel, on replies that were written down beforehand, and notes the calls it
makes. A call whose replies have run out is refused, except that the console still works: it delivers
the input and takes any output.
-/

namespace Lifecycle

/-- Replies that are still to be given, and the calls made so far. -/
structure Replay where
  exec : List Int32 := []
  /-- Values of `join`, each with the status that it stores, if it stores one. -/
  join : List (Int32 × Option Int32) := []
  halt : List Int32 := []
  /-- Values of `read`; such a reply leaves buffer and input alone. -/
  read : List Int32 := []
  write : List Int32 := []
  /-- The console input. -/
  input : List UInt8 := []
  /-- The calls made, the latest in front; reads are only counted. -/
  calls : List Syscall.Call := []
  reads : Nat := 0
  deriving DecidableEq, Repr

namespace Replay

/-- How a replayed program ended. -/
inductive Outcome (α : Type) where
  | returned (value : α)
  | exited (status : Int32)
  | crashed
  deriving DecidableEq, Repr

/-- Notes a call. -/
def note (replay : Replay) (call : Syscall.Call) : Replay :=
  { replay with calls := call :: replay.calls }

/-- Takes the next reply of a queue; `otherwise` once it is empty. -/
def next {β : Type} (otherwise : β) : List β → β × List β
  | [] => (otherwise, [])
  | reply :: later => (reply, later)

/-- Answers an `exec`. -/
def answerExec (replay : Replay) : Int32 × Replay :=
  let (value, later) := next (-1) replay.exec
  (value, { replay with exec := later })

/-- Answers a `join`. -/
def answerJoin (replay : Replay) : (Int32 × Option Int32) × Replay :=
  let (reply, later) := next (-1, none) replay.join
  (reply, { replay with join := later })

/-- Answers a `halt`. -/
def answerHalt (replay : Replay) : Int32 × Replay :=
  let (value, later) := next (-1) replay.halt
  (value, { replay with halt := later })

/-- Answers a `read`. -/
def answerRead (replay : Replay) (descriptor : Int32) (buffer : List UInt8) :
    Int32 × List UInt8 × Replay :=
  let replay := { replay with reads := replay.reads + 1 }
  match replay.read with
  | value :: later => (value, buffer, { replay with read := later })
  | [] =>
    if descriptor = inputDescriptor then
      let console : Console := { input := replay.input }
      let (count, buffer, console) := console.read buffer
      (Int32.ofNat count, buffer, { replay with input := console.input })
    else (-1, buffer, replay)

/-- Answers a `write`. -/
def answerWrite (replay : Replay) (descriptor : Int32) (bytes : List UInt8) : Int32 × Replay :=
  match replay.write with
  | value :: later => (value, { replay with write := later })
  | [] => (if descriptor = outputDescriptor then Int32.ofNat bytes.length else -1, replay)

/-- Runs a program to its end. -/
def run {α : Type} (replay : Replay) : Program α → Outcome α × Replay
  | .done value => (.returned value, replay)
  | .exit status => (.exited status, replay.note (.exit status))
  | .crash => (.crashed, replay)
  | .halt next =>
    let (value, replay) := (replay.note .halt).answerHalt
    run replay (next value)
  | .exec name arguments next =>
    let (value, replay) := (replay.note (.exec name arguments)).answerExec
    run replay (next value)
  | .join pid next =>
    let ((value, status), replay) := (replay.note (.join pid)).answerJoin
    run replay (next value status)
  | .read descriptor buffer next =>
    let (value, bytes, replay) := replay.answerRead descriptor buffer
    run replay (next value bytes)
  | .write descriptor bytes next =>
    let (value, replay) := (replay.note (.write descriptor bytes)).answerWrite descriptor bytes
    run replay (next value)

/-- Takes out the calls noted so far, in order. -/
def takeCalls (replay : Replay) : List Syscall.Call × Replay :=
  (replay.calls.reverse, { replay with calls := [] })

end Replay

end Lifecycle
