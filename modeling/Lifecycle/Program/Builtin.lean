import Lifecycle.Image
import Lifecycle.Program.Library

/-!
# Built-in programs

The programs that every machine has installed.

`fibonacci n` computes its number through child processes: the children compute the two numbers
before it, one after the other, and pass them on as exit statuses. `join_test` exercises creating,
collecting and halting from a parent process, with `echo` and `print_args` as its children.
-/

namespace Lifecycle.Program

/-! ### Echo -/

/-- The image name of `echo`. -/
def echoName : String := "echo.coff"

/-- Prints one line of input, then asks to halt; only the last running process may. -/
def echo : Main := fun _ => do
  print "echo: "
  let line ← readLine
  printLine line
  let _ ← tryHalt
  printLine "halt refused"
  return 0

/-! ### Arguments -/

/-- The image name of `printArguments`. -/
def printArgumentsName : String := "print_args.coff"

/-- Prints each text on a line of its own. -/
def printLines : List String → Program Unit
  | [] => done ()
  | text :: texts => do
    printLine text
    printLines texts

/-- Prints each argument after the image name on a line of its own. -/
def printArguments : Main := fun arguments => do
  printLines (arguments.drop 1)
  return 0

/-! ### Fibonacci numbers -/

/-- The image name of `fibonacci`. -/
def fibonacciName : String := "fibonacci.coff"

/-- The status of a process that could not create or collect a child. -/
def outOfMemoryStatus : Int32 := -1

/-- Ends a process that could not create or collect a child. -/
def outOfMemory {α : Type} : Program α := do
  printLine "Machine ran out of memory"
  exit outOfMemoryStatus

/-- Computes the Fibonacci number of index `index` in a child process. -/
def fibonacciChild (index : Int32) : Program Int32 := do
  match ← spawn fibonacciName [fibonacciName, Numeral.ofInt32 index] with
  | .error _ => outOfMemory
  | .ok pid =>
    match ← wait pid with
    | .exited status => if status = outOfMemoryStatus then outOfMemory else return status
    | .abnormal => outOfMemory
    | .invalid => outOfMemory

/-- The Fibonacci number of index `index`; every index up to 0 counts as 0. -/
def fibonacciOf (index : Int32) : Program Int32 :=
  if index ≤ 0 then done 1
  else if index = 1 then done 2
  else do
    let former ← fibonacciChild (index - 2)
    let latter ← fibonacciChild (index - 1)
    let sum := former + latter
    printLine ("fibonacci(" ++ Numeral.ofInt32 index ++ ") = " ++ Numeral.ofInt32 sum)
    return sum

/-- Returns the Fibonacci number whose index is the first argument, 0 without one. -/
def fibonacci : Main := fun arguments =>
  fibonacciOf (match arguments[1]? with
    | some argument => Numeral.toInt32 argument
    | none => 0)

/-! ### Self test -/

/-- The image name of `joinTest`. -/
def joinTestName : String := "join_test.coff"

/-- The status of a failed self test. -/
def failedStatus : Int32 := -3

/-- Ends the self test with a message. -/
def failed (message : String) : Program Int32 := do
  printLine message
  return failedStatus

/--
Collects a child that reads input and asks to halt, tries to collect it again, collects two children
that run at the same time, and halts the machine.
-/
def joinTest : Main := fun _ => do
  printLine "testing exec and join of a child that reads input and tries to halt"
  let .ok pid ← spawn echoName [echoName] | failed "process creation failed!"
  let .exited status ← wait pid | failed "join failed on a valid child"
  printLine ("joined child with exit status " ++ Numeral.ofInt32 status)
  printLine "joining the same child again"
  let again ← wait pid
  if again ≠ .invalid then failed "second join was accepted"
  else
    printLine "second join rejected"
    printLine "running two children concurrently"
    let first ← spawn printArgumentsName [printArgumentsName, "hey from process 1"]
    let second ← spawn printArgumentsName [printArgumentsName, "hello from process 2"]
    let .ok first := first | failed "process creation failed!"
    let .ok second := second | failed "process creation failed!"
    let first ← wait first
    let second ← wait second
    if first.code?.isNone || second.code?.isNone then failed "join failed on a valid child"
    else
      printLine "joined both children"
      printLine "halting"
      let _ ← tryHalt
      failed "halt refused"

/-! ### Catalogue -/

/-- A program with what the machine shows of it. -/
structure Builtin where
  image : Image Main
  /-- What the program does, in one line. -/
  about : String

/-- Every built-in program. -/
def builtins : List Builtin := [
  ⟨⟨echoName, 2, echo⟩, "echo one line of input, then try to halt"⟩,
  ⟨⟨fibonacciName, 3, fibonacci⟩, "compute fibonacci(n) with one child process per call"⟩,
  ⟨⟨joinTestName, 4, joinTest⟩, "exercise exec, join and halt from a parent process"⟩,
  ⟨⟨printArgumentsName, 2, printArguments⟩, "print each argument on its own line"⟩]

/-- The built-in program of an image name. -/
def findBuiltin? (name : String) : Option Builtin :=
  builtins.find? fun builtin => builtin.image.name == name

end Lifecycle.Program
