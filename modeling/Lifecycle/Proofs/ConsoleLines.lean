import Lifecycle.Proofs.IntegerInterface
import Lifecycle.Proofs.Texts

/-!
# Lines of console input

A program reads a line byte by byte. It stops after a line feed, at the end of the input and after
`maxLineBytes` bytes, and a carriage return at the end of what it has then is dropped. This file
proves what successive readings make of input that consists of lines.

The line feed of a line is read together with the line exactly if the whole line, its ending
included, has at most `maxLineBytes` bytes. Otherwise the bound stops the reading in front of the
line feed, which the next reading takes for an empty line.
-/

namespace Lifecycle

/-! ### Line endings in encoded text -/

namespace Utf8

/-- A byte below `0x80` is written for the character with this code only. -/
theorem eq_of_mem_encodeChar {character other : Char} {byte : UInt8}
    (ascii : byte.toNat < 0x80) (code : byte.toNat = other.val.toNat)
    (member : byte ∈ String.utf8EncodeChar character) : character = other := by
  apply Char.toNat_inj.mp
  rcases mem_encodeChar member with same | above
  · exact same.symm.trans code
  · omega

theorem lineFeed_notMem_encode {text : String} (oneLine : '\n' ∉ text.toList) :
    Program.lineFeed ∉ encode text := by
  intro member
  rw [encode_eq_flatMap, List.mem_flatMap] at member
  rcases member with ⟨character, written, member⟩
  have same : character = '\n' := eq_of_mem_encodeChar (by decide) (by decide) member
  exact oneLine (same ▸ written)

theorem getLast?_encode_ne {text : String} (unreturned : text.toList.getLast? ≠ some '\r') :
    (encode text).getLast? ≠ some Program.carriageReturn := by
  intro returned
  rw [encode_eq_flatMap] at returned
  rcases List.eq_nil_or_concat text.toList with empty | ⟨earlier, last, split⟩
  · simp [empty] at returned
  · have written : String.utf8EncodeChar last ≠ [] := by
      have size := String.length_utf8EncodeChar last
      have positive := last.utf8Size_pos
      intro empty
      rw [empty, List.length_nil] at size
      omega
    rw [split, List.concat_eq_append, List.flatMap_append, List.flatMap_singleton,
      List.getLast?_append_of_ne_nil _ written] at returned
    have same : last = '\r' :=
      eq_of_mem_encodeChar (by decide) (by decide) (List.mem_of_getLast? returned)
    simp [split, same] at unreturned

end Utf8

namespace Program

theorem lineText_reverse {line : List UInt8} (unreturned : line.getLast? ≠ some carriageReturn) :
    lineText line.reverse = Utf8.decode line := by
  rcases List.eq_nil_or_concat line with rfl | ⟨earlier, last, rfl⟩
  · rfl
  · have other : last ≠ carriageReturn := by simpa using unreturned
    simp [lineText, other]

theorem lineText_return (line : List UInt8) :
    lineText (carriageReturn :: line.reverse) = Utf8.decode line := by
  simp [lineText]

theorem runOver_bind {α β σ : Type}
    (answer : Syscall.Call → σ → Option Syscall.Reply × σ) (rest : α → Program β)
    {program : Program α} {state after : σ} {value : α}
    (handsOver : program.runOver answer state = (some value, after)) :
    (bind rest program).runOver answer state = (rest value).runOver answer after := by
  induction program generalizing state with
  | done other =>
      cases handsOver
      rfl
  | crash => cases handsOver
  | exit status => cases handsOver
  | join target next ih | read descriptor buffer next ih =>
      simp only [runOver] at handsOver
      simp only [bind, runOver]
      split at handsOver
      · cases handsOver
      · exact ih _ _ handsOver
  | halt next ih | exec name arguments next ih | write descriptor bytes next ih =>
      simp only [runOver] at handsOver
      simp only [bind, runOver]
      split at handsOver
      · cases handsOver
      · exact ih _ handsOver

end Program

/-! ### Programs that only read -/

namespace Engine

open Program (lineFeed carriageReturn collectLine lineText readLine)

variable {E σ α β : Type} {engine : Engine E σ} {caller : Pid}

/--
Run by `caller` while the console holds `input`, the program hands over `value` and leaves `left`
of the input. It does nothing else that the kernel or the console would show.
-/
def Reads (engine : Engine E σ) (caller : Pid) (program : Program α) (input : List UInt8)
    (value : α) (left : List UInt8) : Prop :=
  ∀ state, (engine.system state).console.input = input →
    ∃ after, program.runOver (engine.handle caller) state = (some value, after) ∧
      (engine.system after).console = { (engine.system state).console with input := left } ∧
      engine.kernel after = engine.kernel state

namespace Reads

variable {input left : List UInt8} {value : α}

theorem done (value : α) (input : List UInt8) :
    engine.Reads caller (.done value) input value input := by
  intro state ready
  exact ⟨state, rfl, by rw [← ready], rfl⟩

theorem bind {program : Program α} {rest : α → Program β} {later : List UInt8} {result : β}
    (first : engine.Reads caller program input value left)
    (second : engine.Reads caller (rest value) left result later) :
    engine.Reads caller (Program.bind rest program) input result later := by
  intro state ready
  rcases first state ready with ⟨middle, handsOver, console, kernel⟩
  rcases second middle (by rw [console]) with ⟨after, finishes, left, unchanged⟩
  refine ⟨after, ?_, ?_, unchanged.trans kernel⟩
  · rw [Program.runOver_bind _ _ handsOver, finishes]
  · rw [left, console]

section Stores

variable (caller) (stores : ∀ system effects state,
  engine.system (engine.settle system effects state) = system)

include stores

/-- A read of one byte takes the first one that is there, or finds that there is none. -/
theorem read {buffer : UInt8} {next : Int32 → List UInt8 → Program α}
    (rest : engine.Reads caller (next (if input = [] then 0 else 1) [input.headD buffer])
      input.tail value left) :
    engine.Reads caller (.read inputDescriptor [buffer] next) input value left := by
  intro state ready
  have entered (call : Syscall.Call) :
      (engine.system (engine.entered caller call state)).console =
        (engine.system state).console := by
    simp only [Engine.entered, report, setStats, stores]
  have served : ∃ after, engine.handle caller (.read inputDescriptor [buffer]) state =
        (some { value := if input = [] then 0 else 1, buffer := [input.headD buffer] }, after) ∧
      (engine.system after).console = { (engine.system state).console with input := input.tail } ∧
      engine.kernel after = engine.kernel state := by
    refine ⟨_, Prod.ext ?_ rfl, ?_, ?_⟩
    · rw [fst_handle]
      cases input with
      | nil => simp [perform, Engine.read, entered, ready, Console.read]; rfl
      | cons byte input => simp [perform, Engine.read, entered, ready, Console.read]; rfl
    · rw [handle_eq]
      cases input with
      | nil => simp [perform, Engine.read, entered, ready, Console.read, report, setConsole, stores]
      | cons byte input =>
          simp [perform, Engine.read, entered, ready, Console.read, report, setConsole, stores]
    · rw [kernel_handle caller stores]
      simp only [perform, Engine.read, if_true, kernel, setConsole, stores]
      exact kernel_entered caller stores _ state
  rcases served with ⟨middle, served, console, unchanged⟩
  rcases rest middle (by rw [console]) with ⟨after, finishes, leaves, kept⟩
  refine ⟨after, ?_, ?_, kept.trans unchanged⟩
  · simp only [Program.runOver, served]
    exact finishes
  · rw [leaves, console]

theorem collectLine_nil (room : Nat) (buffer : UInt8) (collected : List UInt8) :
    engine.Reads caller (collectLine (room + 1) buffer collected) [] collected [] := by
  apply read caller stores
  exact done collected []

theorem collectLine_lineFeed (room : Nat) (buffer : UInt8) (collected rest : List UInt8) :
    engine.Reads caller (collectLine (room + 1) buffer collected) (lineFeed :: rest) collected
      rest := by
  apply read caller stores
  exact done collected rest

theorem collectLine_cons {room : Nat} {buffer byte : UInt8} {collected rest : List UInt8}
    {value : List UInt8} (other : byte ≠ lineFeed)
    (later : engine.Reads caller (collectLine room byte (byte :: collected)) rest value left) :
    engine.Reads caller (collectLine (room + 1) buffer collected) (byte :: rest) value left := by
  apply read caller stores
  have goesOn : ¬((1 : Int32) ≤ 0 ∨ byte = lineFeed) := by
    rintro (below | same)
    · exact absurd below (by decide)
    · exact other same
  simp only [reduceCtorEq, if_false, List.headD_cons, List.tail_cons, if_neg goesOn]
  exact later

/-- Bytes other than line feeds are collected one after the other, as long as there is room. -/
theorem collectLine_append {line : List UInt8} (oneLine : lineFeed ∉ line) (room : Nat)
    {collected rest value : List UInt8}
    (later : ∀ buffer, engine.Reads caller (collectLine room buffer (line.reverse ++ collected))
      rest value left) (buffer : UInt8) :
    engine.Reads caller (collectLine (line.length + room) buffer collected) (line ++ rest) value
      left := by
  induction line generalizing buffer collected with
  | nil =>
      rw [List.length_nil, Nat.zero_add]
      exact later buffer
  | cons byte line ih =>
      rw [List.mem_cons, not_or] at oneLine
      rw [List.length_cons, Nat.add_right_comm]
      apply collectLine_cons caller stores (Ne.symm oneLine.1)
      refine ih oneLine.2 ?_ byte
      simpa using later

/-- With room for the line feed, the line is collected and its line feed is taken too. -/
theorem collectLine_line {room : Nat} {line : List UInt8} (oneLine : lineFeed ∉ line)
    (fits : line.length < room) (buffer : UInt8) (collected rest : List UInt8) :
    engine.Reads caller (collectLine room buffer collected) (line ++ lineFeed :: rest)
      (line.reverse ++ collected) rest := by
  obtain ⟨spare, rfl⟩ := Nat.exists_eq_add_of_lt fits
  apply collectLine_append caller stores oneLine (spare + 1)
  intro buffer
  exact collectLine_lineFeed caller stores spare buffer _ rest

/-- With room for one byte more, the end of the input is found behind the line. -/
theorem collectLine_end {room : Nat} {line : List UInt8} (oneLine : lineFeed ∉ line)
    (fits : line.length < room) (buffer : UInt8) (collected : List UInt8) :
    engine.Reads caller (collectLine room buffer collected) line (line.reverse ++ collected)
      [] := by
  obtain ⟨spare, rfl⟩ := Nat.exists_eq_add_of_lt fits
  have collects := collectLine_append caller stores oneLine (spare + 1)
    (fun buffer => collectLine_nil caller stores spare buffer (line.reverse ++ collected)) buffer
  rwa [List.append_nil] at collects

/-- Without room for anything behind the line, the rest of the input stays where it is. -/
theorem collectLine_bounded {line : List UInt8} (oneLine : lineFeed ∉ line)
    (buffer : UInt8) (collected rest : List UInt8) :
    engine.Reads caller (collectLine line.length buffer collected) (line ++ rest)
      (line.reverse ++ collected) rest := by
  apply collectLine_append caller stores oneLine 0
  intro buffer
  exact done _ rest

theorem readLine_end {line : List UInt8} (oneLine : lineFeed ∉ line)
    (fits : line.length < maxLineBytes) :
    engine.Reads caller readLine line (lineText line.reverse) [] := by
  have collects := collectLine_end caller stores oneLine fits 0 []
  rw [List.append_nil] at collects
  exact collects.bind (done _ _)

theorem readLine_nil : engine.Reads caller readLine [] "" [] :=
  readLine_end caller stores List.not_mem_nil (by decide)

theorem readLine_line {line : List UInt8} (oneLine : lineFeed ∉ line)
    (fits : line.length < maxLineBytes) (rest : List UInt8) :
    engine.Reads caller readLine (line ++ lineFeed :: rest) (lineText line.reverse) rest := by
  have collects := collectLine_line caller stores oneLine fits 0 [] rest
  rw [List.append_nil] at collects
  exact collects.bind (done _ _)

theorem readLine_bounded {line : List UInt8} (oneLine : lineFeed ∉ line)
    (full : line.length = maxLineBytes) (rest : List UInt8) :
    engine.Reads caller readLine (line ++ rest) (lineText line.reverse) rest := by
  have collects := collectLine_bounded caller stores oneLine 0 [] rest
  rw [List.append_nil, full] at collects
  exact collects.bind (done _ _)

end Stores

end Reads

end Engine

/-! ### Lines with their endings -/

/-- Reads a number of lines, one after the other. -/
def Program.readLines : Nat → Program (List String)
  | 0 => done []
  | calls + 1 => do
    let line ← readLine
    let later ← readLines calls
    return line :: later

/-- What follows a line in the input. -/
inductive LineEnding where
  | lineFeed
  | carriageReturnLineFeed
  deriving DecidableEq, Repr

/-- The bytes of an ending in the input. -/
def LineEnding.bytes : LineEnding → List UInt8
  | lineFeed => [Program.lineFeed]
  | carriageReturnLineFeed => [Program.carriageReturn, Program.lineFeed]

/-- A line of input that is not too long to be read at once, if its ending is left aside. -/
structure ConsoleLine where
  text : String
  ending : LineEnding
  oneLine : '\n' ∉ text.toList
  unreturned : text.toList.getLast? ≠ some '\r'
  bounded : (Utf8.encode text).length ≤ maxLineBytes

namespace ConsoleLine

/-- The line in the input. -/
def bytes (line : ConsoleLine) : List UInt8 := Utf8.encode line.text ++ line.ending.bytes

/-- What is read of a line: where its ending exceeds the bound, an empty line comes after it. -/
def readings (line : ConsoleLine) : List String :=
  if line.bytes.length ≤ maxLineBytes then [line.text] else [line.text, ""]

variable (line : ConsoleLine)

theorem lineText_text : Program.lineText (Utf8.encode line.text).reverse = line.text := by
  rw [Program.lineText_reverse (Utf8.getLast?_encode_ne line.unreturned), Utf8.decode_encode]

theorem lineText_returned :
    Program.lineText (Utf8.encode line.text ++ [Program.carriageReturn]).reverse = line.text := by
  rw [List.reverse_append, List.reverse_singleton, List.singleton_append, Program.lineText_return,
    Utf8.decode_encode]

theorem lineFeed_notMem_text : Program.lineFeed ∉ Utf8.encode line.text :=
  Utf8.lineFeed_notMem_encode line.oneLine

theorem lineFeed_notMem_returned :
    Program.lineFeed ∉ Utf8.encode line.text ++ [Program.carriageReturn] := by
  rw [List.mem_append, List.mem_singleton, not_or]
  exact ⟨line.lineFeed_notMem_text, by decide⟩

end ConsoleLine

namespace Engine

open Program (readLine readLines)

variable {E σ : Type} {engine : Engine E σ} {caller : Pid}

/-- Reading line after line, the readings are these, and then the input is empty. -/
inductive ReadsAll (engine : Engine E σ) (caller : Pid) : List UInt8 → List String → Prop where
  | nil : ReadsAll engine caller [] []
  | cons {input left : List UInt8} {text : String} {later : List String}
      (first : engine.Reads caller readLine input text left)
      (others : ReadsAll engine caller left later) : ReadsAll engine caller input (text :: later)

section Stores

variable (caller) (stores : ∀ system effects state,
  engine.system (engine.settle system effects state) = system)

include stores

theorem Reads.whole_line {line : ConsoleLine} (fits : line.bytes.length ≤ maxLineBytes)
    (rest : List UInt8) :
    engine.Reads caller readLine (line.bytes ++ rest) line.text rest := by
  unfold ConsoleLine.bytes at fits ⊢
  rw [List.length_append] at fits
  cases ending : line.ending with
  | lineFeed =>
      have read := readLine_line caller stores line.lineFeed_notMem_text
        (by simp only [ending, LineEnding.bytes, List.length_singleton] at fits; omega) rest
      simpa [LineEnding.bytes, line.lineText_text] using read
  | carriageReturnLineFeed =>
      have read := readLine_line caller stores line.lineFeed_notMem_returned
        (by
          simp only [ending, LineEnding.bytes, List.length_cons, List.length_nil] at fits
          rw [List.length_append, List.length_singleton]
          omega) rest
      rw [line.lineText_returned] at read
      simpa [LineEnding.bytes] using read

/-- What the bound leaves of a line is read as an empty line. -/
theorem Reads.cut_line {line : ConsoleLine} (exceeds : ¬line.bytes.length ≤ maxLineBytes)
    (rest : List UInt8) :
    ∃ left, engine.Reads caller readLine (line.bytes ++ rest) line.text left ∧
      engine.Reads caller readLine left "" rest := by
  have bounded := line.bounded
  unfold ConsoleLine.bytes at exceeds ⊢
  rw [List.length_append] at exceeds
  have feed : engine.Reads caller readLine (Program.lineFeed :: rest) "" rest :=
    readLine_line caller stores (List.not_mem_nil) (by decide) rest
  cases ending : line.ending with
  | lineFeed =>
      simp only [ending, LineEnding.bytes, List.length_singleton] at exceeds
      refine ⟨_, ?_, feed⟩
      have read := readLine_bounded caller stores line.lineFeed_notMem_text
        (by omega) (Program.lineFeed :: rest)
      simpa [LineEnding.bytes, line.lineText_text] using read
  | carriageReturnLineFeed =>
      simp only [ending, LineEnding.bytes, List.length_cons, List.length_nil] at exceeds
      rcases Nat.lt_or_eq_of_le bounded with below | full
      · refine ⟨_, ?_, feed⟩
        have read := readLine_bounded caller stores line.lineFeed_notMem_returned
          (by rw [List.length_append, List.length_singleton]; omega) (Program.lineFeed :: rest)
        rw [line.lineText_returned] at read
        simpa [LineEnding.bytes] using read
      · refine ⟨Program.carriageReturn :: Program.lineFeed :: rest, ?_, ?_⟩
        · have read := readLine_bounded caller stores line.lineFeed_notMem_text full
            (Program.carriageReturn :: Program.lineFeed :: rest)
          simpa [LineEnding.bytes, line.lineText_text] using read
        · have unfed : Program.lineFeed ∉ [Program.carriageReturn] := by decide
          exact readLine_line caller stores unfed (by decide) rest

theorem ReadsAll.lines (lines : List ConsoleLine) :
    engine.ReadsAll caller (lines.flatMap ConsoleLine.bytes)
      (lines.flatMap ConsoleLine.readings) := by
  induction lines with
  | nil => exact .nil
  | cons line lines ih =>
      rw [List.flatMap_cons, List.flatMap_cons, ConsoleLine.readings]
      split
      next fits => exact .cons (.whole_line caller stores fits _) ih
      next exceeds =>
          rcases Reads.cut_line caller stores exceeds (lines.flatMap ConsoleLine.bytes) with
            ⟨left, first, second⟩
          exact .cons first (.cons second ih)

theorem Reads.readLines {input : List UInt8} {readings : List String}
    (reads : engine.ReadsAll caller input readings) (calls : Nat) :
    ∃ left, engine.Reads caller (readLines calls) input
        (readings.take calls ++ List.replicate (calls - readings.length) "") left ∧
      (readings.length ≤ calls → left = []) := by
  induction calls generalizing input readings with
  | zero =>
      refine ⟨input, ?_, ?_⟩
      · rw [List.take_zero, Nat.zero_sub]
        exact .done [] input
      · intro none
        rw [Nat.le_zero, List.length_eq_zero_iff] at none
        cases reads with
        | nil => rfl
        | cons first others => cases none
  | succ calls ih =>
      cases reads with
      | nil =>
          rcases ih .nil with ⟨left, later, empties⟩
          refine ⟨left, ?_, fun _ => empties (Nat.zero_le _)⟩
          simp only [List.take_nil, List.nil_append, List.length_nil, Nat.sub_zero,
            List.replicate_succ] at later ⊢
          exact (readLine_nil caller stores).bind (later.bind (.done _ _))
      | cons first others =>
          rcases ih others with ⟨left, later, empties⟩
          refine ⟨left, ?_, fun enough => empties (Nat.le_of_succ_le_succ enough)⟩
          rw [List.length_cons, Nat.add_sub_add_right]
          exact first.bind (later.bind (.done _ _))

end Stores

/-- What reading line after line makes of an input that consists of lines. -/
structure SplitsLines (engine : Engine E σ) (caller : Pid) (lines : List ConsoleLine)
    (state : σ) : Prop where
  /-- The first calls return what is read of the lines, in order, and all others an empty line. -/
  readings : ∀ calls,
    ((readLines calls).runOver (engine.handle caller) state).1 =
      some ((lines.flatMap ConsoleLine.readings).take calls ++
        List.replicate (calls - (lines.flatMap ConsoleLine.readings).length) "")
  /-- Nothing is left of the input when every line was read. -/
  input_eq_nil : ∀ calls, (lines.flatMap ConsoleLine.readings).length ≤ calls →
    (engine.system ((readLines calls).runOver (engine.handle caller) state).2).console.input = []
  /-- With endings within the bound too, every call returns the line of its number. -/
  texts : (∀ line ∈ lines, line.bytes.length ≤ maxLineBytes) →
    lines.flatMap ConsoleLine.readings = lines.map ConsoleLine.text
  /-- No call changes more than the input. -/
  console : ∀ calls, ∃ left,
    (engine.system ((readLines calls).runOver (engine.handle caller) state).2).console =
      { (engine.system state).console with input := left }
  kernel : ∀ calls,
    engine.kernel ((readLines calls).runOver (engine.handle caller) state).2 = engine.kernel state

/--
Console input that consists of lines of at most `maxLineBytes` bytes is read line by line, in order
and up to its end. A line that exceeds the bound together with its ending is followed by an empty
one; where no line does, the readings are the lines.
-/
theorem console_lines_are_read_in_order
    (stores : ∀ system effects state, engine.system (engine.settle system effects state) = system)
    (caller : Pid) (lines : List ConsoleLine) {state : σ}
    (queued : (engine.system state).console.input = lines.flatMap ConsoleLine.bytes) :
    engine.SplitsLines caller lines state := by
  have reads (calls : Nat) :=
    Reads.readLines caller stores (ReadsAll.lines caller stores lines) calls
  refine ⟨?_, ?_, ?_, ?_, ?_⟩
  · intro calls
    rcases reads calls with ⟨left, read, _⟩
    rcases read state queued with ⟨after, run, _, _⟩
    rw [run]
  · intro calls enough
    rcases reads calls with ⟨left, read, empties⟩
    rcases read state queued with ⟨after, run, leaves, _⟩
    rw [run, leaves]
    exact empties enough
  · intro bounded
    rw [List.map_eq_flatMap]
    apply List.flatMap_congr
    intro line member
    exact if_pos (bounded line member)
  · intro calls
    rcases reads calls with ⟨left, read, _⟩
    rcases read state queued with ⟨after, run, leaves, _⟩
    rw [run]
    exact ⟨left, leaves⟩
  · intro calls
    rcases reads calls with ⟨left, read, _⟩
    rcases read state queued with ⟨after, run, _, unchanged⟩
    rw [run]
    exact unchanged

end Engine

namespace ConsoleLine

/-- A line as long as the bound allows. -/
def longest : ConsoleLine where
  text := String.ofList (List.replicate maxLineBytes 'z')
  ending := .lineFeed
  oneLine := by
    rw [String.toList_ofList]
    decide
  unreturned := by
    rw [String.toList_ofList]
    decide
  bounded := by
    rw [Utf8.encode_eq_flatMap, String.toList_ofList]
    decide +kernel

/-- A line that ends in a carriage return and a line feed. -/
def short : ConsoleLine where
  text := "next"
  ending := .carriageReturnLineFeed
  oneLine := by decide
  unreturned := by decide
  bounded := by decide +kernel

/-- A scene in which both lines are queued. -/
def queued : Session.Scene where
  session :=
    { system := .boot {} (.ofList []) (Console.push {} ([longest, short].flatMap bytes)) }

end ConsoleLine

/-- The readings are the two lines with an empty one between them. -/
theorem Engine.console_lines_are_read_after_longest :
    let engine := Session.engine none (Session.runSteps []) 0
    (engine.system ConsoleLine.queued).console.input =
        [ConsoleLine.longest, .short].flatMap ConsoleLine.bytes ∧
      engine.SplitsLines .root [ConsoleLine.longest, .short] ConsoleLine.queued := by
  have lawful := Session.lawful_engine none 0 (Session.returns_runSteps [])
  exact ⟨rfl, console_lines_are_read_in_order lawful.system_settle .root _ rfl⟩

/-- The second reading after a line as long as the bound is not the second line. -/
theorem ConsoleLine.empty_line_follows_longest :
    let engine := Session.engine none (Session.runSteps []) 0
    (engine.system queued).console.input = [longest, short].flatMap bytes ∧
      ((Program.readLines 2).runOver (engine.handle .root) queued).1 ≠
        some ([longest, short].map text) := by
  have lawful := Session.lawful_engine none 0 (Session.returns_runSteps [])
  have reads := Engine.ReadsAll.lines .root lawful.system_settle [longest, short]
  rcases Engine.Reads.readLines .root lawful.system_settle reads 2 with ⟨left, read, _⟩
  rcases read queued rfl with ⟨after, run, _, _⟩
  have exceeds : ¬longest.bytes.length ≤ maxLineBytes := by
    rw [bytes, Utf8.encode_eq_flatMap, longest, String.toList_ofList]
    decide +kernel
  have second : (([longest, short].flatMap readings).take 2 ++
      List.replicate (2 - ([longest, short].flatMap readings).length) "")[1]? = some "" := by
    simp [readings, exceeds]
  refine ⟨rfl, ?_⟩
  rw [run]
  intro same
  rw [Option.some.inj same] at second
  exact absurd second (by decide)

end Lifecycle
