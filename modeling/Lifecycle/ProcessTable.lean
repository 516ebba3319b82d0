import Lifecycle.Image
import Lifecycle.PidMap
import Lifecycle.Refusal

/-!
# Process table

The record of every process from the moment its pid is reserved until its parent collects it.

A process is created in two steps. `reserve` hands out a pid and enters an embryo below its parent;
`activate` turns the embryo into a running process that owns an address space. `withdraw` undoes
either step. `terminate` ends a running process, whose record then waits for `collect`, and `collect`
hands a record out once and to the parent alone.
-/

namespace Lifecycle

/-- The record of one process. -/
structure ProcessRecord where
  pid : Pid
  /-- The process that created it; the first process has none. -/
  parent : Option Pid
  state : ProcessState
  /-- The children that it has not collected. -/
  children : PidSet
  /-- The memory it owns while it runs. -/
  space : Option AddressSpace
  deriving DecidableEq, Repr

namespace ProcessRecord

/-- The record of a process whose pid was just reserved. -/
def newborn (pid : Pid) (parent : Option Pid) : ProcessRecord where
  pid := pid
  parent := parent
  state := .embryo
  children := ∅
  space := none

/-- Enters a child. -/
def adopt (child : Pid) (record : ProcessRecord) : ProcessRecord :=
  { record with children := record.children.insert child () }

/-- Strikes a child out. -/
def disown (child : Pid) (record : ProcessRecord) : ProcessRecord :=
  { record with children := record.children.erase child }

end ProcessRecord

/-- What a listing of the table shows of a record. -/
structure ProcessSnapshot where
  pid : Pid
  parent : Option Pid
  state : ProcessState
  /-- The uncollected children, ascending. -/
  children : List Pid
  /-- The image of a process that owns its memory. -/
  image : Option String
  deriving DecidableEq, Repr

/-- The part of a record that a listing shows. -/
def ProcessRecord.snapshot (record : ProcessRecord) : ProcessSnapshot where
  pid := record.pid
  parent := record.parent
  state := record.state
  children := record.children.keys
  image := record.space.map AddressSpace.image

/-- What is left to do after a process ended. -/
structure Departure where
  /-- The memory it owned. -/
  space : Option AddressSpace
  /-- The processes that still run. -/
  remaining : Nat
  deriving DecidableEq, Repr

/-- How an attempt to collect a process went. -/
inductive Collection where
  /-- It is not an uncollected child of the caller. -/
  | notAChild
  /-- It has not ended yet. -/
  | stillRunning
  /-- It has ended, and its record is gone. -/
  | completed (termination : Termination)
  deriving DecidableEq, Repr

/-- The records of all processes. -/
structure ProcessTable where
  records : PidMap ProcessRecord
  /-- The number of the pid that is handed out next. -/
  nextPid : Nat
  /-- How many processes run. -/
  running : Nat
  /-- The number of the highest pid that may be handed out. -/
  maxPid : Nat
  deriving DecidableEq, Repr

namespace ProcessTable

/-- The empty table that hands out pids from zero up to `maxPid`, capped at `pidLimit`. -/
def ofMaxPid (maxPid : Nat) : ProcessTable where
  records := ∅
  nextPid := 0
  running := 0
  maxPid := cappedPid maxPid

/-- The record of a process. -/
def find? (table : ProcessTable) (pid : Pid) : Option ProcessRecord := table.records.find? pid

/-- Whether a process has a record. -/
def contains (table : ProcessTable) (pid : Pid) : Bool := table.records.contains pid

/-- The state of a process that has a record. -/
def stateOf? (table : ProcessTable) (pid : Pid) : Option ProcessState :=
  (table.find? pid).map ProcessRecord.state

/-- The number of records. -/
def size (table : ProcessTable) : Nat := table.records.size

/-- Every record, by ascending pid. -/
def snapshot (table : ProcessTable) : List ProcessSnapshot :=
  table.records.values.map ProcessRecord.snapshot

/--
Hands out the next pid to a new child of `parent`. The child counts among the parent's children at
once. A parent needs a record, in whatever state; that no pid is left is found out first.
-/
def reserve (table : ProcessTable) (parent : Option Pid) : Except TableError (Pid × ProcessTable) :=
  let pid : Pid := ⟨table.nextPid⟩
  let enter (records : PidMap ProcessRecord) : ProcessTable :=
    { table with
      records := records.insert pid (.newborn pid parent)
      nextPid := table.nextPid + 1 }
  if table.maxPid < table.nextPid then .error .pidSpaceExhausted
  else
    match parent with
    | none => .ok (pid, enter table.records)
    | some creator =>
      if table.contains creator then
        .ok (pid, enter (table.records.modify creator (.adopt pid)))
      else .error (.noSuchProcess creator)

/-- Turns an embryo into a running process that owns `space`; anything else gets `space` back. -/
def activate (table : ProcessTable) (pid : Pid) (space : AddressSpace) :
    Except AddressSpace ProcessTable :=
  if table.stateOf? pid = some .embryo then
    .ok { table with
      records := table.records.modify pid fun record =>
        { record with state := .running, space := some space }
      running := table.running + 1 }
  else .error space

/--
Removes a process that was never to run, and gives back the memory it owned. If its pid was the last
one handed out, that pid is handed out again; any other pid is gone for good.
-/
def withdraw (table : ProcessTable) (pid : Pid) : Option AddressSpace × ProcessTable :=
  match table.find? pid with
  | none => (none, table)
  | some record =>
    let remaining := table.records.erase pid
    (record.space,
      { table with
        records := match record.parent with
          | none => remaining
          | some creator => remaining.modify creator (.disown pid)
        running := if record.state = .running then table.running - 1 else table.running
        nextPid := if pid.number + 1 = table.nextPid then pid.number else table.nextPid })

/-- Ends a running process. Its record stays until its parent collects it. -/
def terminate (table : ProcessTable) (pid : Pid) (status : Option Int32) :
    Except TableError (Departure × ProcessTable) :=
  match table.find? pid with
  | none => .error (.noSuchProcess pid)
  | some record =>
    if record.state = .running then
      let remaining := table.running - 1
      .ok (⟨record.space, remaining⟩,
        { table with
          records := table.records.modify pid fun record =>
            { record with state := .exited (.ofStatus status), space := none }
          running := remaining })
    else .error (.invalidState pid record.state)

/-- Whether `caller` has `target` among its uncollected children. -/
def hasChild (table : ProcessTable) (caller target : Pid) : Bool :=
  ((table.find? caller).map fun record => record.children.contains target).getD false

/--
Collects `target` for `caller`. A child that has ended is removed, together with its parent's
reference to it. A reference to a record that does not exist is dropped.
-/
def collect (table : ProcessTable) (caller target : Pid) : Collection × ProcessTable :=
  if table.hasChild caller target then
    let disowned := table.records.modify caller (.disown target)
    match table.stateOf? target with
    | none => (.notAChild, { table with records := disowned })
    | some (.exited termination) =>
      (.completed termination, { table with records := disowned.erase target })
    | some _ => (.stillRunning, table)
  else (.notAChild, table)

/-- Whether `caller` is the only process that runs. -/
def isLastRunning (table : ProcessTable) (caller : Pid) : Bool :=
  table.running == 1 && decide (table.stateOf? caller = some .running)

end ProcessTable

end Lifecycle
