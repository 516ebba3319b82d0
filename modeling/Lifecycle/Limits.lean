/-!
# Machine limits

The fixed sizes of the machine and the boot-time configuration of its kernel.

Pids travel through the system call interface as 32-bit signed integers, so no configuration can
name one above `pidLimit`. Every size that a boot may change has its default here.
-/

namespace Lifecycle

/-- Bytes in one page of memory. -/
def pageSize : Nat := 1024

/-- Physical pages of a machine that is not configured otherwise. -/
def defaultPhysPages : Nat := 256

/-- Stack pages of every process, unless configured otherwise. -/
def defaultStackPages : Nat := 8

/-- Pages that hold the arguments of a process. -/
def argumentPages : Nat := 1

/-- Highest pid that is handed out, unless configured otherwise. -/
def defaultMaxPid : Nat := 65535

/-- Highest pid that any configuration may name: the largest 32-bit signed integer. -/
def pidLimit : Nat := 2147483647

/-- How many values 32 bits have. -/
def values32 : Nat := 4294967296

/-- How many values 64 bits have. -/
def values64 : Nat := 18446744073709551616

/-- Longest program name or argument, in bytes of UTF-8. -/
def maxTextBytes : Nat := 256

/-- What the name of an executable image ends in. -/
def executableSuffix : String := ".coff"

/-- Descriptor that reads the console input. -/
def inputDescriptor : Int32 := 0

/-- Descriptor that writes the console output. -/
def outputDescriptor : Int32 := 1

/-- Longest line that a program reads at once, in bytes. -/
def maxLineBytes : Nat := 256

/-- What the kernel is told at boot. -/
structure KernelConfig where
  /-- Pages of physical memory. -/
  physPages : Nat := defaultPhysPages
  /-- Stack pages of each process. -/
  stackPages : Nat := defaultStackPages
  /-- Highest pid that may be handed out. -/
  maxPid : Nat := defaultMaxPid
  deriving DecidableEq, Repr

/-- The highest pid for a machine that was asked for `maxPid`. -/
def cappedPid (maxPid : Nat) : Nat := min maxPid pidLimit

namespace KernelConfig

/-- Replaces the pages of physical memory. -/
def withPhysPages (config : KernelConfig) (pages : Nat) : KernelConfig :=
  { config with physPages := pages }

/-- Replaces the highest pid, capped at `pidLimit`. -/
def withMaxPid (config : KernelConfig) (maxPid : Nat) : KernelConfig :=
  { config with maxPid := cappedPid maxPid }

end KernelConfig

end Lifecycle
