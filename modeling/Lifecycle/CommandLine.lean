import Lifecycle.Simulator

/-!
# Command line

The words of a command, what they ask for, and what the command answers.

A command is `run` with an image name and its arguments, or `programs`. Options may stand before and
after these words. An option's value follows it as the next word, or after an equals sign in the same
word; a word that starts with a hyphen is never taken as a value. After the word `--` nothing is an
option.

An option that was read is checked when the next option, the next plain word of a `run` or the end of
the words is reached. So of two faults the first word's usually counts, but a word that nothing takes
is reported even if the option before it has a bad value, and the words of a subcommand are checked
before the option in front of it.
-/

namespace Lifecycle.CommandLine

/-- In which form a command answers. -/
inductive OutputFormat where
  | json
  | human
  deriving DecidableEq, Repr

/-- The name of a format. -/
def OutputFormat.name : OutputFormat → String
  | json => "json"
  | human => "human"

/-- Why words are no command, or what else than a command they ask for. -/
inductive UsageError where
  | helpRequested
  | versionRequested
  /-- There are no words. -/
  | nothingGiven
  /-- There are options but no subcommand. -/
  | subcommandMissing
  | subcommandUnknown
  /-- A `run` names no image. -/
  | programMissing
  /-- Nothing takes this word. -/
  | unexpectedWord
  /-- An option has no value, or none of its possible values. -/
  | valueInvalid
  /-- The value of an option is not a number that fits. -/
  | numberInvalid
  /-- A word that takes no value has one. -/
  | valueUnexpected
  /-- An option is given twice. -/
  | optionRepeated
  deriving DecidableEq, Repr

/-- The exit code after words that are no command. -/
def UsageError.exitCode : UsageError → Nat
  | helpRequested | versionRequested => 0
  | _ => 2

/-- What an option sets. -/
inductive Setting where
  | output
  | logLevel
  | config
  | physPages
  | maxPid
  | input
  deriving DecidableEq, Repr

/-- The values of the options. -/
structure Options where
  output : Option OutputFormat := none
  /-- The least important log level that is shown; `some none` shows nothing. -/
  logLevel : Option (Option Log.Level) := none
  config : Option String := none
  physPages : Option Nat := none
  maxPid : Option Nat := none
  input : Option String := none
  deriving DecidableEq, Repr

/-- What a command consists of, at the place that the words have reached. -/
inductive Scope where
  /-- Before the subcommand. -/
  | top
  | run
  | programs
  deriving DecidableEq, Repr

/-- The setting of an option, where the scope has it. -/
def Setting.ofName? (scope : Scope) : String → Option Setting
  | "output" => some .output
  | "log-level" => some .logLevel
  | "config" => if scope = .run then some .config else none
  | "phys-pages" => if scope = .run then some .physPages else none
  | "max-pid" => if scope = .run then some .maxPid else none
  | "input" => if scope = .run then some .input else none
  | _ => none

/-! ### Values -/

/-- The format of a name. -/
def outputFormat? : String → Option OutputFormat
  | "json" => some .json
  | "human" => some .human
  | _ => none

/-- The log level of a name. -/
def logLevel? : String → Option (Option Log.Level)
  | "off" => some none
  | "error" => some (some .error)
  | "warn" => some (some .warn)
  | "info" => some (some .info)
  | "debug" => some (some .debug)
  | "trace" => some (some .trace)
  | _ => none

/-- A number without a minus sign that is less than `bound`. -/
def natural? (bound : Nat) (text : String) : Option Nat :=
  let digits := match text.toList with
    | '+' :: digits => digits
    | digits => digits
  (Numeral.toNat? digits).filter (· < bound)

/-- A number with any sign whose value is not negative and less than `bound`. -/
def signedNatural? (bound : Nat) (text : String) : Option Nat :=
  match text.toList with
  | '-' :: digits => (Numeral.toNat? digits).filter (· = 0)
  | _ => natural? bound text

namespace Options

/-- Whether a setting has a value. -/
def has (options : Options) : Setting → Bool
  | .output => options.output.isSome
  | .logLevel => options.logLevel.isSome
  | .config => options.config.isSome
  | .physPages => options.physPages.isSome
  | .maxPid => options.maxPid.isSome
  | .input => options.input.isSome

/-- Gives a setting the value that a text denotes. -/
def set (options : Options) (setting : Setting) (text : String) : Except UsageError Options :=
  match setting with
  | .output =>
    match outputFormat? text with
    | some format => .ok { options with output := some format }
    | none => .error .valueInvalid
  | .logLevel =>
    match logLevel? text with
    | some level => .ok { options with logLevel := some level }
    | none => .error .valueInvalid
  | .config =>
    if text.isEmpty then .error .valueInvalid else .ok { options with config := some text }
  | .physPages =>
    match natural? values64 text with
    | some pages => .ok { options with physPages := some pages }
    | none => .error .numberInvalid
  | .maxPid =>
    match signedNatural? values32 text with
    | some maxPid => .ok { options with maxPid := some maxPid }
    | none => .error .numberInvalid
  | .input => .ok { options with input := some text }

/-- Checks an option that was read: that it has a value, that it is the first of its kind, the value. -/
def check (options : Options) (setting : Setting) (value : Option String) :
    Except UsageError Options :=
  match value with
  | none => .error .valueInvalid
  | some text =>
    if options.has setting then .error .optionRepeated else options.set setting text

/-- Options of a subcommand together with those in front of it, which count where it has none. -/
def orElse (options front : Options) : Options :=
  { options with
    output := options.output <|> front.output
    logLevel := options.logLevel <|> front.logLevel }

end Options

/-! ### Words -/

/-- What was read so far. -/
structure Progress where
  options : Options := {}
  /-- An option that is not checked yet, with its value if that was read. -/
  pending : Option (Setting × Option String) := none
  /-- The words that are no options. -/
  plain : List String := []
  /-- Whether nothing is an option any more. -/
  plainOnly : Bool := false
  deriving DecidableEq, Repr

namespace Progress

/-- Checks the pending option. -/
def settle (progress : Progress) : Except UsageError Progress :=
  match progress.pending with
  | none => .ok progress
  | some (setting, value) =>
    match progress.options.check setting value with
    | .ok options => .ok { progress with options := options, pending := none }
    | .error fault => .error fault

/-- Whether the next word can be the value of the pending option. -/
def awaitsValue (progress : Progress) : Bool :=
  match progress.pending with
  | some (_, none) => true
  | _ => false

/-- Takes a word as the value of the pending option. -/
def giveValue (progress : Progress) (word : String) : Progress :=
  { progress with pending := progress.pending.map fun (setting, _) => (setting, some word) }

/-- Takes a request for something else than a command, once the pending option is checked. -/
def interrupt (progress : Progress) (request : UsageError) : Except UsageError Progress :=
  match progress.settle with
  | .ok _ => .error request
  | .error fault => .error fault

/-- Reads a word that starts with two hyphens, given what follows them. -/
def readLong (scope : Scope) (word : List Char) (progress : Progress) :
    Except UsageError Progress :=
  let name := String.ofList (word.takeWhile (· != '='))
  let value := match word.dropWhile (· != '=') with
    | [] => none
    | _ :: value => some (String.ofList value)
  match Setting.ofName? scope name with
  | some setting =>
    match progress.settle with
    | .error fault => .error fault
    | .ok progress =>
      let progress := { progress with pending := some (setting, value) }
      if value.isSome then progress.settle else .ok progress
  | none =>
    let request : Option UsageError :=
      if name = "help" then some .helpRequested
      else if name = "version" ∧ scope = .top then some .versionRequested
      else none
    match request with
    | none => .error .unexpectedWord
    | some request => if value.isSome then .error .valueUnexpected else progress.interrupt request

/-- Reads a word that starts with one hyphen, given the letter that follows it. -/
def readShort (scope : Scope) (letter : Char) (progress : Progress) : Except UsageError Progress :=
  if letter = 'h' then progress.interrupt .helpRequested
  else if letter = 'V' ∧ scope = .top then progress.interrupt .versionRequested
  else .error .unexpectedWord

/-- Reads a word that is neither an option nor a value. -/
def readPlain (scope : Scope) (word : String) (progress : Progress) : Except UsageError Progress :=
  match scope with
  | .run =>
    match progress.settle with
    | .ok progress => .ok { progress with plain := progress.plain ++ [word] }
    | .error fault => .error fault
  | .programs => .error .unexpectedWord
  | .top =>
    if progress.plainOnly && (word == "run" || word == "programs" || word == "help") then
      .error .unexpectedWord
    else .error .subcommandUnknown

/-- Reads one word. -/
def read (scope : Scope) (progress : Progress) (word : String) : Except UsageError Progress :=
  if progress.plainOnly then progress.readPlain scope word
  else
    match word.toList with
    | ['-', '-'] => .ok { progress with plainOnly := true }
    | '-' :: '-' :: rest => progress.readLong scope rest
    | '-' :: letter :: _ => progress.readShort scope letter
    | _ =>
      if progress.awaitsValue then .ok (progress.giveValue word)
      else progress.readPlain scope word

/-- Reads all words of a subcommand. -/
def readAll (scope : Scope) (words : List String) : Except UsageError Progress := do
  (← words.foldlM (read scope) {}).settle

end Progress

/-! ### Commands -/

/-- What is to be done. -/
inductive Command where
  /-- Boot an image and run the machine until it stops. -/
  | run (program : String) (arguments : List String)
  /-- List the installed programs. -/
  | programs
  deriving DecidableEq, Repr

/-- A command with its options. -/
structure Request where
  command : Command
  options : Options
  deriving DecidableEq, Repr

/-- Reads the words after `help`: the subcommand that help is wanted for. -/
def readHelp : List String → UsageError
  | [] | ["run"] | ["programs"] | ["help"] => .helpRequested
  | _ => .subcommandUnknown

/-- Reads the words of a subcommand. -/
def readSubcommand (scope : Scope) (words : List String) : Except UsageError Request := do
  let progress ← Progress.readAll scope words
  match scope, progress.plain with
  | .run, program :: arguments => return ⟨.run program arguments, progress.options⟩
  | .run, [] => throw .programMissing
  | _, _ => return ⟨.programs, progress.options⟩

/-- The scope of a subcommand. -/
def subcommand? : String → Option Scope
  | "run" => some .run
  | "programs" => some .programs
  | _ => none

/-- Reads the words from the one on that may be a subcommand. -/
def readFrom (progress : Progress) : List String → Except UsageError Request
  | [] => do
    let progress ← progress.settle
    throw (if progress.options = {} then .nothingGiven else .subcommandMissing)
  | word :: words =>
    if progress.plainOnly || progress.awaitsValue then do
      readFrom (← progress.read .top word) words
    else if word = "help" then .error (readHelp words)
    else
      match subcommand? word with
      | some scope => do
        let request ← readSubcommand scope words
        let progress ← progress.settle
        return { request with options := request.options.orElse progress.options }
      | none => do readFrom (← progress.read .top word) words

/-- Reads the words of a command. -/
def parse (words : List String) : Except UsageError Request := readFrom {} words

/-! ### Answers -/

/-- What a command writes, and its exit code. -/
structure Answer where
  stdout : String := ""
  stderr : String := ""
  exitCode : Nat := 0
  deriving DecidableEq, Repr

/-- The answer to a command that failed. -/
def errorAnswer (format : OutputFormat) (error : SimulatorError) : Answer :=
  match format with
  | .json => {
      stdout := Json.object [("error", Json.string error.message),
        ("exit_code", Json.natural error.exitCode)] ++ "\n"
      exitCode := error.exitCode }
  | .human => { stderr := "error: " ++ error.message ++ "\n", exitCode := error.exitCode }

/-- The answer to a `run` that ended: for people, what the console showed comes before the report. -/
def reportAnswer (format : OutputFormat) (report : Report) : Answer :=
  match format with
  | .json => { stdout := report.json ++ "\n" }
  | .human => { stdout := report.console ++ report.text ++ "\n" }

/-- Carries out a command; `files` gives what a file that exists holds. -/
def carryOut (files : String → Option FileContent) (request : Request)
    (read : String → Except String MachineConfig := MachineConfig.read) : Answer :=
  let options := request.options
  let format := options.output.getD .human
  match request.command with
  | .programs =>
    let listings := Simulator.builtinListings
    { stdout := (match format with
        | .json => Listing.json listings
        | .human => Listing.text listings) ++ "\n" }
  | .run program arguments =>
    let file := options.config.map fun path => (⟨path, files path⟩ : ConfigFile)
    let overrides : Overrides := ⟨options.physPages, options.maxPid, options.input⟩
    let outcome := do
      let config ← MachineConfig.resolve file overrides read
      Simulator.run config (Simulator.registryWith []) program (program :: arguments)
    match outcome with
    | .ok report => reportAnswer format report
    | .error error => errorAnswer format error

end Lifecycle.CommandLine
