import Lifecycle.Process
import Lifecycle.Text.Quoted

/-!
# System calls

The numbered services that the kernel offers to programs, a call with its arguments, and what the
kernel hands back.

Ten numbers are defined. Six of them are implemented; the others are known by name alone, and calling
one is an `unsupported` call.
-/

namespace Lifecycle.Syscall

/-- The defined system calls. -/
inductive Number where
  | halt
  | exit
  | exec
  | join
  | create
  | openFile
  | read
  | write
  | close
  | unlink
  deriving DecidableEq, Repr

namespace Number

/-- All numbers in ascending order of their codes. -/
def all : List Number := [halt, exit, exec, join, create, openFile, read, write, close, unlink]

/-- How many system calls are defined. -/
abbrev count : Nat := 10

/-- The code of a call. -/
def code : Number → Fin count
  | halt => 0
  | exit => 1
  | exec => 2
  | join => 3
  | create => 4
  | openFile => 5
  | read => 6
  | write => 7
  | close => 8
  | unlink => 9

/-- The call of a code. -/
def ofCode? (code : Nat) : Option Number := all[code]?

/-- The name that log records use. -/
def name : Number → String
  | halt => "halt"
  | exit => "exit"
  | exec => "exec"
  | join => "join"
  | create => "create"
  | openFile => "open"
  | read => "read"
  | write => "write"
  | close => "close"
  | unlink => "unlink"

theorem ofCode?_code (number : Number) : ofCode? number.code.val = some number := by
  cases number <;> rfl

theorem length_all : all.length = count := rfl

end Number

/-- A system call with its arguments. -/
inductive Call where
  /-- Stop the machine. -/
  | halt
  /-- End the calling process. -/
  | exit (status : Int32)
  /-- Create a child process. -/
  | exec (name : String) (arguments : List String)
  /-- Wait for a child process and collect it. -/
  | join (pid : Int32)
  /-- Read into a buffer, given with the bytes it holds. -/
  | read (descriptor : Int32) (buffer : List UInt8)
  /-- Write bytes. -/
  | write (descriptor : Int32) (bytes : List UInt8)
  /-- A defined call that is not implemented. -/
  | unsupported (number : Number)
  deriving DecidableEq, Repr

namespace Call

/-- The number of a call. -/
def number : Call → Number
  | halt => .halt
  | exit _ => .exit
  | exec _ _ => .exec
  | join _ => .join
  | read _ _ => .read
  | write _ _ => .write
  | unsupported number => number

/-- The call as log records show it. -/
def label : Call → String
  | exec name arguments => "exec(" ++ Text.quoted name ++ ", " ++ Text.quotedList arguments ++ ")"
  | join pid => "join(" ++ Numeral.ofInt32 pid ++ ")"
  | exit status => "exit(" ++ Numeral.ofInt32 status ++ ")"
  | read descriptor buffer =>
    "read(" ++ Numeral.ofInt32 descriptor ++ s!", {buffer.length} bytes)"
  | write descriptor bytes =>
    "write(" ++ Numeral.ofInt32 descriptor ++ s!", {bytes.length} bytes)"
  | halt => "halt()"
  | unsupported number => number.name ++ "()"

end Call

/-- What a system call hands back to the program. -/
structure Reply where
  /-- The value that the call returns; a negative one reports failure. -/
  value : Int32
  /-- The status that a `join` stores, if it stores one. -/
  status : Option Int32 := none
  /-- The bytes of the buffer after a `read`. -/
  buffer : List UInt8 := []
  deriving DecidableEq, Repr

/-- The reply of a call that only returns a value. -/
def Reply.ofValue (value : Int32) : Reply := { value := value }

/-- The reply of a call that was turned down. -/
def Reply.failure : Reply := .ofValue (-1)

end Lifecycle.Syscall
