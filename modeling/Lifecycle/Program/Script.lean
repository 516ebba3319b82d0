import Lifecycle.Program.Library
import Lifecycle.Text.Hex

/-!
# Scripts

Programs written as a list of steps. A script runs its steps in order, remembers what its `exec` steps
returned, and returns 0 after the last step.
-/

namespace Lifecycle.Script

/-- A text that a step uses. -/
inductive Source where
  | literal (text : String)
  /-- The script's own argument of an index, or the empty text. -/
  | argument (index : Nat)
  deriving DecidableEq, Repr

/-- A process to be created. -/
structure Child where
  name : Source
  arguments : List String
  /-- The index from which the script's own arguments follow; without one, none do. -/
  argumentsFrom : Option Nat
  deriving DecidableEq, Repr

/-- A pid that a step waits for. -/
inductive Target where
  /-- What the `exec` step of an index returned, counted from 0. -/
  | created (index : Nat)
  | pid (pid : Int32)
  deriving DecidableEq, Repr

/-- A status that a step returns. -/
inductive Result where
  | status (status : Int32)
  /-- The number in the script's own argument of an index, or 0. -/
  | argument (index : Nat)
  deriving DecidableEq, Repr

/-- One step of a script. -/
inductive Step where
  /-- Creates a process, and prints what that returned if it is to be shown. -/
  | exec (child : Child) (shown : Bool)
  /-- Collects a process, and prints the value and the status. -/
  | join (target : Target)
  /-- Creates a process, collects it, and prints how that went. -/
  | run (child : Child)
  | print (text : String)
  /-- Prints the script's own arguments. -/
  | arguments
  /-- Reads a line and prints it. -/
  | readLine
  /-- Reads so many bytes and prints the buffer. -/
  | read (descriptor : Int32) (count : Nat)
  | write (descriptor : Int32) (bytes : List UInt8)
  | halt
  | exit (status : Int32)
  | finish (result : Result)
  | crash
  deriving DecidableEq, Repr

/-- What every byte of a fresh read buffer holds. -/
def blankByte : UInt8 := 0xEE

/-- The status that a `join` step starts with. -/
def unsetStatus : Int32 := -99

/-- A text as a script with the given arguments sees it. -/
def Source.text (own : List String) : Source → String
  | literal text => text
  | argument index => own[index]?.getD ""

/-- The arguments of a child. -/
def Child.fullArguments (own : List String) (child : Child) : List String :=
  child.arguments ++ child.argumentsFrom.elim [] own.drop

open Program in
/-- The program of a script with the given arguments, after `exec` steps that returned `created`. -/
def program (own : List String) (created : List Int32) : List Step → Program Int32
  | [] => done 0
  | .exec child shown :: steps =>
    .exec (child.name.text own) (child.fullArguments own) fun value => do
      if shown then printLine ("exec=" ++ Numeral.ofInt32 value)
      program own (created ++ [value]) steps
  | .join target :: steps =>
    let pid := match target with
      | .created index => created[index]?.getD (-1)
      | .pid pid => pid
    .join pid fun value status => do
      printLine ("join=" ++ Numeral.ofInt32 value ++ " status=" ++
        Numeral.ofInt32 (status.getD unsetStatus))
      program own created steps
  | .run child :: steps => do
    match ← spawn (child.name.text own) (child.fullArguments own) with
    | .error cause => printLine ("run " ++ cause.message)
    | .ok pid =>
      let status ← wait pid
      printLine ("run " ++ Numeral.ofInt32 pid ++ " " ++ status.label)
    program own created steps
  | .print text :: steps => do
    Program.print text
    program own created steps
  | .arguments :: steps => do
    own.forM printLine
    program own created steps
  | .readLine :: steps => do
    let line ← Program.readLine
    printLine ("line=" ++ line)
    program own created steps
  | .read descriptor count :: steps => do
    let (value, buffer) ← readBytes descriptor (List.replicate count blankByte)
    printLine ("read=" ++ Numeral.ofInt32 value ++ " " ++ Text.hexOfBytes buffer)
    program own created steps
  | .write descriptor bytes :: steps => do
    let value ← writeBytes descriptor bytes
    printLine ("write=" ++ Numeral.ofInt32 value)
    program own created steps
  | .halt :: steps => do
    let value ← tryHalt
    printLine ("halt=" ++ Numeral.ofInt32 value)
    program own created steps
  | .exit status :: _ => .exit status
  | .finish (.status status) :: _ => done status
  | .finish (.argument index) :: _ => done (own[index]?.elim 0 Numeral.toInt32)
  | .crash :: _ => .crash

/-- A script as an installed program. -/
def main (steps : List Step) : Main := fun own => program own [] steps

end Lifecycle.Script
