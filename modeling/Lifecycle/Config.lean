import Lifecycle.Process
import Lifecycle.Toml

/-!
# Configurations

The configuration of a machine: its kernel's sizes and the input on its console. It comes from a
file, if one is named, and options given at the start take the place of what the file says.

A file is checked on its own before the options are applied, and the outcome is checked again. How the
text of a file is read is no matter of the machine: everything here takes the reader as a parameter.
-/

namespace Lifecycle

/-- The configuration of a machine. -/
structure MachineConfig where
  /-- Pages of physical memory. -/
  physPages : Nat := defaultPhysPages
  /-- Stack pages of each process. -/
  stackPages : Nat := defaultStackPages
  /-- Highest pid that may be handed out. -/
  maxPid : Nat := defaultMaxPid
  /-- What is queued on the console before the boot. -/
  input : String := ""
  deriving DecidableEq, Repr

/-- Why no machine runs with a configuration. -/
inductive ConfigFault where
  /-- There is no memory at all. -/
  | noPages
  /-- Pids could outgrow the integers that programs receive. -/
  | pidsTooLarge
  deriving DecidableEq, Repr

/-- The fault in words. -/
def ConfigFault.message : ConfigFault → String
  | noPages => "phys_pages must be at least 1"
  | pidsTooLarge => s!"max_pid must not exceed {pidLimit}"

/-- Why the machine that was asked for did not run. -/
inductive SimulatorError where
  /-- The named configuration file does not exist. -/
  | configNotFound (path : String)
  /-- The configuration file is no document of known keys and fitting values. -/
  | configParse (detail : String)
  | invalidConfig (reason : String)
  /-- The configuration file exists, but it could not be read. -/
  | io (detail : String)
  | json (detail : String)
  /-- No image of this name is installed. -/
  | unknownProgram (name installed : String)
  /-- The first process was not created. -/
  | bootFailed (name reason : String)
  deriving DecidableEq, Repr

namespace SimulatorError

/-- The error in words. -/
def message : SimulatorError → String
  | configNotFound path => s!"Config file not found: {path}"
  | configParse detail => s!"Config parse error: {detail}"
  | invalidConfig reason => s!"Invalid config: {reason}"
  | io detail => s!"IO error: {detail}"
  | json detail => s!"JSON error: {detail}"
  | unknownProgram name installed => s!"Unknown program: {name} (installed: {installed})"
  | bootFailed name reason => s!"Boot of {name} failed: {reason}"

/-- The exit code of a command that ended so: 1 if the program could not run, else 2. -/
def exitCode : SimulatorError → Nat
  | unknownProgram _ _ | bootFailed _ _ => 1
  | configNotFound _ | configParse _ | invalidConfig _ | io _ | json _ => 2

/-- The error of a configuration with a fault. -/
def ofFault (fault : ConfigFault) : SimulatorError := invalidConfig fault.message

end SimulatorError

namespace MachineConfig

/-- The first fault of a configuration. -/
def fault? (config : MachineConfig) : Option ConfigFault :=
  if config.physPages = 0 then some .noPages
  else if pidLimit < config.maxPid then some .pidsTooLarge
  else none

/-- A configuration without faults, or the error of the first one. -/
def validate (config : MachineConfig) : Except SimulatorError MachineConfig :=
  match config.fault? with
  | none => .ok config
  | some fault => .error (.ofFault fault)

/-- What the kernel is told. -/
def kernelConfig (config : MachineConfig) : KernelConfig :=
  { (({} : KernelConfig).withPhysPages config.physPages).withMaxPid config.maxPid with
    stackPages := config.stackPages }

/-- An integer as a size below `bound`. -/
def size? (bound : Nat) : Toml.Value → Option Nat
  | .integer value => if 0 ≤ value ∧ value < bound then some value.toNat else none
  | .string _ => none

/-- Sets one key of a configuration file; `none` if there is no such key or the value does not fit. -/
def set? (config : MachineConfig) (key : String) (value : Toml.Value) : Option MachineConfig :=
  match key with
  | "phys_pages" => (size? values64 value).map fun pages => { config with physPages := pages }
  | "stack_pages" => (size? values64 value).map fun pages => { config with stackPages := pages }
  | "max_pid" => (size? values32 value).map fun pid => { config with maxPid := pid }
  | "input" =>
    match value with
    | .string text => some { config with input := text }
    | .integer _ => none
  | _ => none

/-- What a configuration file says; keys it leaves out have their defaults. -/
def read? (text : String) : Option MachineConfig := do
  (← Toml.parse? text).foldlM (fun config entry => config.set? entry.1 entry.2) {}

/-- The reader of this library, for flat documents. -/
def read (text : String) : Except String MachineConfig :=
  match read? text with
  | none => .error "not a list of known keys with fitting values"
  | some config => .ok config

/-- The configuration in a text, checked; `parse` reads the text, or tells what is wrong with it. -/
def ofFile (text : String) (parse : String → Except String MachineConfig := read) :
    Except SimulatorError MachineConfig :=
  match parse text with
  | .error detail => .error (.configParse detail)
  | .ok config => config.validate

end MachineConfig

/-- Values that take the place of those in a configuration. -/
structure Overrides where
  physPages : Option Nat := none
  maxPid : Option Nat := none
  input : Option String := none
  deriving DecidableEq, Repr

/-- The configuration with the given values in place. -/
def Overrides.apply (overrides : Overrides) (config : MachineConfig) : MachineConfig :=
  { config with
    physPages := overrides.physPages.getD config.physPages
    maxPid := overrides.maxPid.getD config.maxPid
    input := overrides.input.getD config.input }

/-- What the attempt to read a file brings. -/
inductive FileContent where
  | text (content : String)
  /-- The file exists, but it cannot be read. -/
  | unreadable (detail : String)
  deriving DecidableEq, Repr

/-- A text stands for the file that holds it. -/
instance : Coe String FileContent := ⟨.text⟩

/-- A configuration file that was named. -/
structure ConfigFile where
  path : String
  /-- What the file holds; `none` if there is no such file. -/
  content : Option FileContent
  deriving DecidableEq, Repr

namespace MachineConfig

/-- The checked configuration of a named file. -/
def load (file : ConfigFile) (parse : String → Except String MachineConfig := read) :
    Except SimulatorError MachineConfig :=
  match file.content with
  | none => .error (.configNotFound file.path)
  | some (.unreadable detail) => .error (.io detail)
  | some (.text content) => ofFile content parse

/-- The configuration of a machine: the file first, then the values that override it. -/
def resolve (file : Option ConfigFile) (overrides : Overrides)
    (parse : String → Except String MachineConfig := read) :
    Except SimulatorError MachineConfig := do
  let config ← match file with
    | none => .ok {}
    | some file => load file parse
  validate (overrides.apply config)

end MachineConfig

end Lifecycle
