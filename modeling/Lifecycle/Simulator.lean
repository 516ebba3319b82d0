import Lifecycle.Config
import Lifecycle.Program.Builtin
import Lifecycle.Report

/-!
# Simulator

From a configuration and an image name to the report of a finished run.
-/

namespace Lifecycle.Simulator

/-- The built-in programs as images. -/
def builtinImages : List (Image Main) := Program.builtins.map Program.Builtin.image

/-- A registry with the built-in programs, and then the given ones, installed. -/
def registryWith (images : List (Image Main)) : ImageRegistry Main :=
  ImageRegistry.ofList (builtinImages ++ images)

/-- What is shown of the built-in programs. -/
def builtinListings : List Listing :=
  Program.builtins.map fun builtin =>
    ⟨builtin.image.name, builtin.image.pages, builtin.about⟩

/-- The error of an image that is not installed. -/
def unknownProgram (registry : ImageRegistry Main) (name : String) : SimulatorError :=
  .unknownProgram name (", ".intercalate registry.names)

/--
Boots `name` on a machine with the configuration and runs it until it stops, together with the
machine that is left.
-/
def runMachine (config : KernelConfig) (registry : ImageRegistry Main) (input : String)
    (schedule : Schedule) (startsLeft : Option Nat) (name : String) (arguments : List String) :
    Except ExecError (Option Report) × Machine :=
  let machine := Machine.switchedOn config registry (Utf8.encode input) schedule startsLeft
  let (booted, machine) := machine.run name arguments
  (booted.map fun root => Report.ofMachine? name root machine, machine)

/-- Boots `name` with the configuration and reports on the run. -/
def run (config : MachineConfig) (registry : ImageRegistry Main) (name : String)
    (arguments : List String) : Except SimulatorError Report :=
  if (registry.find? name).isNone then .error (unknownProgram registry name)
  else
    let (outcome, _) :=
      runMachine config.kernelConfig registry config.input .fifo none name arguments
    match outcome with
    | .error cause => .error (.bootFailed name cause.message)
    | .ok none => .error (.bootFailed name "the machine did not stop")
    | .ok (some report) => .ok report

end Lifecycle.Simulator
