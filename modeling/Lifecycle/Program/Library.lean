import Lifecycle.Limits
import Lifecycle.Program
import Lifecycle.Text.Utf8

/-!
# Library functions of programs

Typed forms of the system calls that programs use: printing, reading a line, creating and collecting
children.
-/

namespace Lifecycle.Program

/-! ### Console -/

/-- Writes bytes to a descriptor. -/
def writeBytes (descriptor : Int32) (bytes : List UInt8) : Program Int32 :=
  write descriptor bytes done

/-- Reads into a buffer. -/
def readBytes (descriptor : Int32) (buffer : List UInt8) : Program (Int32 × List UInt8) :=
  read descriptor buffer fun value bytes => done (value, bytes)

/-- Prints a text; whether that succeeds makes no difference. -/
def print (text : String) : Program Unit := do
  let _ ← writeBytes outputDescriptor (Utf8.encode text)

/-- Prints a text and a line feed in a single write. -/
def printLine (text : String) : Program Unit := print (text ++ "\n")

/-- Prints pieces of text until one is refused, and tells whether all were written. -/
def printPieces : List String → Program Bool
  | [] => done true
  | piece :: pieces => do
    let written ← writeBytes outputDescriptor (Utf8.encode piece)
    if written < 0 then return false
    printPieces pieces

/-- The byte that ends a line. -/
def lineFeed : UInt8 := 0x0A

/-- The byte that a line may end in before its line feed. -/
def carriageReturn : UInt8 := 0x0D

/--
Reads up to `room` bytes of a line, one at a time and into the same buffer. The bytes read so far,
the latest in front, come back when a line feed or the end of input follows them.
-/
def collectLine (room : Nat) (buffer : UInt8) (collected : List UInt8) : Program (List UInt8) :=
  match room with
  | 0 => done collected
  | room + 1 =>
    read inputDescriptor [buffer] fun value bytes =>
      let byte := bytes.headD buffer
      if value ≤ 0 ∨ byte = lineFeed then done collected
      else collectLine room byte (byte :: collected)

/-- The text of a line, without a carriage return at its end; the bytes are given latest first. -/
def lineText : List UInt8 → String
  | [] => ""
  | last :: earlier =>
    Utf8.decode (if last = carriageReturn then earlier else last :: earlier).reverse

/-- Reads a line of at most `maxLineBytes` bytes, without its ending. -/
def readLine : Program String := do
  let collected ← collectLine maxLineBytes 0 []
  return lineText collected

/-! ### Processes -/

/-- Why a program got no child. -/
inductive SpawnError where
  /-- The kernel refused to create the process. -/
  | execFailed
  deriving DecidableEq, Repr

/-- The error in words. -/
def SpawnError.message : SpawnError → String
  | execFailed => "process creation failed"

/-- How a program's wait for a child ended. -/
inductive JoinStatus where
  /-- The child ended with a status. -/
  | exited (status : Int32)
  /-- The child ended without one. -/
  | abnormal
  /-- There is no such child to wait for. -/
  | invalid
  deriving DecidableEq, Repr

namespace JoinStatus

/-- Reads the value of a `join` and the status that its caller sees after it. -/
def ofReply (value status : Int32) : JoinStatus :=
  if value = 1 then exited status
  else if value = 0 then abnormal
  else invalid

/-- The status of a child that gave one. -/
def code? : JoinStatus → Option Int32
  | exited status => some status
  | _ => none

/-- The outcome as programs print it. -/
def label : JoinStatus → String
  | exited status => "Exited(" ++ Numeral.ofInt32 status ++ ")"
  | abnormal => "Abnormal"
  | invalid => "Invalid"

end JoinStatus

/-- Creates a child process. -/
def spawn (name : String) (arguments : List String) : Program (Except SpawnError Int32) :=
  exec name arguments fun pid => done (if 0 ≤ pid then .ok pid else .error .execFailed)

/-- Waits for a child and collects it. -/
def wait (pid : Int32) : Program JoinStatus :=
  join pid fun value status => done (.ofReply value (status.getD 0))

/-- Asks to halt the machine; a program that comes back from that was refused. -/
def tryHalt : Program Int32 := halt done

end Lifecycle.Program
