import Lifecycle.CommandLine

/-!
# The command

Runs the command that the words of the command line ask for: reads the configuration file they name,
writes what the command answers and ends with its exit code.
-/

namespace Lifecycle.CommandLine

/-- What is written for words that are no command. -/
def usageText : String :=
  "usage: run <PROGRAM> [ARGS]... | programs\n" ++
  "options: --output json|human, --log-level off|error|warn|info|debug|trace\n" ++
  "options of run: --config <FILE>, --phys-pages <N>, --max-pid <N>, --input <TEXT>\n"

/-- What a file holds; `none` if it does not exist. -/
def readContent? (path : String) : IO (Option FileContent) := do
  try
    return some (.text (← IO.FS.readFile path))
  catch
    | .noFileOrDirectory .. => return none
    | fault => return some (.unreadable fault.toString)

end Lifecycle.CommandLine

open Lifecycle CommandLine in
/-- Runs the command of the given words. -/
def main (words : List String) : IO UInt32 := do
  match parse words with
  | .error fault =>
    if fault.exitCode = 0 then IO.print usageText else IO.eprint usageText
    return UInt32.ofNat fault.exitCode
  | .ok request =>
    let content ← match request.options.config with
      | none => pure none
      | some path => readContent? path
    let answer := carryOut (fun _ => content) request
    IO.print answer.stdout
    IO.eprint answer.stderr
    return UInt32.ofNat answer.exitCode
