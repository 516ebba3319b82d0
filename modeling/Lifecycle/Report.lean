import Lifecycle.Machine
import Lifecycle.Text.Columns
import Lifecycle.Text.Json
import Lifecycle.Text.Utf8

/-!
# Reports

What a machine shows when it has stopped: why, how the first process ended, the console, the memory
in use, the system calls made and the processes that are left. A report has a form for people and one
in JSON.
-/

namespace Lifecycle

/-- What is shown of a machine that has stopped. -/
structure Report where
  /-- The image that was booted. -/
  program : String
  exit : HaltReason
  /-- How the first process ended; `none` if it was running when the machine stopped. -/
  root : Option Termination
  /-- Everything written to the console. -/
  console : String
  /-- Frames that were not free. -/
  pagesInUse : Nat
  /-- How often each system call was made, by ascending name. -/
  calls : List (String × Nat)
  processes : List ProcessSnapshot
  deriving DecidableEq, Repr

namespace Report

/-- Enters the count of a system call, in place of an earlier one of its name. -/
def enterCount (name : String) (count : Nat) : List (String × Nat) → List (String × Nat)
  | [] => [(name, count)]
  | (other, value) :: rest =>
    if name < other then (name, count) :: (other, value) :: rest
    else if name = other then (name, count) :: rest
    else (other, value) :: enterCount name count rest

/-- The counts of system calls by ascending name. -/
def byName (counts : List (String × Nat)) : List (String × Nat) :=
  counts.foldl (fun entered entry => enterCount entry.1 entry.2 entered) []

/-- The end of a process, unless it is still running or has no record. -/
def outcome? (machine : Machine) (pid : Pid) : Option Termination :=
  match machine.system.kernel.table.stateOf? pid with
  | some (.exited termination) => some termination
  | _ => none

/-- The report on a machine that booted `program` as process `root`, if it has stopped. -/
def ofMachine? (program : String) (root : Pid) (machine : Machine) : Option Report :=
  let system := machine.system
  machine.halted.map fun reason => {
    program := program
    exit := reason
    root := outcome? machine root
    console := Utf8.decode system.console.output
    pagesInUse := system.kernel.loader.totalPages - system.kernel.loader.freePages
    calls := byName (system.stats.nonzero.map fun entry => (entry.1.name, entry.2))
    processes := system.kernel.table.snapshot }

/-- The reason for the stop in words. -/
def exitText : HaltReason → String
  | .requested caller => s!"halted by process {caller}"
  | .allExited => "all processes exited"
  | .pidSpaceExhausted => "out of process identifiers"

/-- The end of the first process in words. -/
def rootText : Option Termination → String
  | none => "running"
  | some (.exit status) => "exited with status " ++ Numeral.ofInt32 status
  | some .abnormal => "terminated abnormally"

/-- The state of a process in a listing. -/
def stateText : ProcessState → String
  | .embryo => "embryo"
  | .running => "running"
  | .exited (.exit status) => "exited(" ++ Numeral.ofInt32 status ++ ")"
  | .exited .abnormal => "abnormal"

/-- One row of the listing of processes. -/
def row (pid parent state image : String) : String :=
  Text.alignRight 5 pid ++ " " ++ Text.alignRight 6 parent ++ "  " ++
    Text.alignLeft 12 state ++ " " ++ image

/-- The row of a process. -/
def processRow (process : ProcessSnapshot) : String :=
  row (toString process.pid) (process.parent.elim "-" toString) (stateText process.state)
    (process.image.getD "-")

/-- The report for people, a listing of the processes included if there are any. -/
def text (report : Report) : String :=
  let listing :=
    if report.processes.isEmpty then []
    else row "PID" "PARENT" "STATE" "IMAGE" :: report.processes.map processRow
  "\n".intercalate
    (["machine stopped: " ++ exitText report.exit,
      "root process " ++ report.program ++ ": " ++ rootText report.root,
      s!"pages in use: {report.pagesInUse}"] ++ listing)

/-- The reason for the stop in JSON. -/
def exitJson : HaltReason → String
  | .requested caller =>
    Json.object [("reason", Json.string "halted"), ("by", Json.natural caller.number)]
  | .allExited => Json.object [("reason", Json.string "all_exited")]
  | .pidSpaceExhausted => Json.object [("reason", Json.string "pid_space_exhausted")]

/-- The end of the first process in JSON. -/
def rootJson : Option Termination → String
  | none => Json.object [("state", Json.string "running")]
  | some (.exit status) =>
    Json.object [("state", Json.string "exited"), ("status", Numeral.ofInt32 status)]
  | some .abnormal => Json.object [("state", Json.string "abnormal")]

/-- A pid in JSON. -/
def pidJson (pid : Pid) : String := Json.natural pid.number

/-- A process in JSON. -/
def processJson (process : ProcessSnapshot) : String :=
  Json.object [
    ("pid", pidJson process.pid),
    ("parent", Json.nullable pidJson process.parent),
    ("state", Json.string (stateText process.state)),
    ("image", Json.nullable Json.string process.image),
    ("children", Json.array (process.children.map pidJson))]

/-- The report in JSON. -/
def json (report : Report) : String :=
  Json.object [
    ("program", Json.string report.program),
    ("exit", exitJson report.exit),
    ("root", rootJson report.root),
    ("console", Json.string report.console),
    ("pages_in_use", Json.natural report.pagesInUse),
    ("syscalls", Json.object (report.calls.map fun entry => (entry.1, Json.natural entry.2))),
    ("processes", Json.array (report.processes.map processJson))]

end Report

/-- What a list of programs shows of one. -/
structure Listing where
  name : String
  /-- Pages of code and data. -/
  pages : Nat
  /-- What the program does, in one line. -/
  about : String
  deriving DecidableEq, Repr

namespace Listing

/-- Programs for people, one on a line. -/
def text (listings : List Listing) : String :=
  "\n".intercalate (listings.map fun listing =>
    Text.alignLeft 18 listing.name ++ " " ++ Text.alignRight 2 (toString listing.pages) ++
      " pages  " ++ listing.about)

/-- Programs in JSON. -/
def json (listings : List Listing) : String :=
  Json.object [("programs", Json.array (listings.map fun listing =>
    Json.object [
      ("name", Json.string listing.name),
      ("pages", Json.natural listing.pages),
      ("about", Json.string listing.about)]))]

end Listing

end Lifecycle
