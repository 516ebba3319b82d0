import Lifecycle.Numeral

/-!
# Programs

A user program as the tree of the system calls that it may make: after each call it goes on with what
the kernel replied. A program knows nothing of the kernel, so whatever answers its calls can run it.

Programs form a monad. Its laws and the calls as single-node programs are all that the library of
user functions is built from.
-/

namespace Lifecycle

/-- A program that hands over a value of type `α` when it is through. -/
inductive Program (α : Type) : Type where
  /-- Is through. -/
  | done (value : α)
  /-- Ends the process with a status. -/
  | exit (status : Int32)
  /-- Breaks down. -/
  | crash
  | halt (next : Int32 → Program α)
  | exec (name : String) (arguments : List String) (next : Int32 → Program α)
  /-- Collects a child, and goes on with the status that was stored, if one was. -/
  | join (pid : Int32) (next : Int32 → Option Int32 → Program α)
  /-- Reads into a buffer, and goes on with the bytes that it holds then. -/
  | read (descriptor : Int32) (buffer : List UInt8) (next : Int32 → List UInt8 → Program α)
  | write (descriptor : Int32) (bytes : List UInt8) (next : Int32 → Program α)

namespace Program

variable {α β γ : Type}

/-- Goes on with `rest` where a program is through. -/
def bind (rest : α → Program β) : Program α → Program β
  | done value => rest value
  | exit status => exit status
  | crash => crash
  | halt next => halt fun value => bind rest (next value)
  | exec name arguments next => exec name arguments fun value => bind rest (next value)
  | join pid next => join pid fun value status => bind rest (next value status)
  | read descriptor buffer next =>
    read descriptor buffer fun value bytes => bind rest (next value bytes)
  | write descriptor bytes next => write descriptor bytes fun value => bind rest (next value)

instance : Monad Program where
  pure := done
  bind program rest := bind rest program

theorem bind_done (rest : α → Program β) (value : α) : bind rest (done value) = rest value := rfl

theorem bind_done_right (program : Program α) : bind done program = program := by
  induction program with
  | done value => rfl
  | exit status => rfl
  | crash => rfl
  | halt next ih => simp [bind, ih]
  | exec name arguments next ih => simp [bind, ih]
  | join pid next ih => simp [bind, ih]
  | read descriptor buffer next ih => simp [bind, ih]
  | write descriptor bytes next ih => simp [bind, ih]

theorem bind_bind (program : Program α) (rest : α → Program β) (last : β → Program γ) :
    bind last (bind rest program) = bind (fun value => bind last (rest value)) program := by
  induction program with
  | done value => rfl
  | exit status => rfl
  | crash => rfl
  | halt next ih => simp [bind, ih]
  | exec name arguments next ih => simp [bind, ih]
  | join pid next ih => simp [bind, ih]
  | read descriptor buffer next ih => simp [bind, ih]
  | write descriptor bytes next ih => simp [bind, ih]

end Program

/-- A program as it is installed: what it does with its arguments, and the status it returns. -/
abbrev Main := List String → Program Int32

end Lifecycle
