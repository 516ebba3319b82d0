import Lifecycle.Proofs.ConsoleLines

/-!
# What one line reading takes

A reading shares its input with all readings after it, so it matters which bytes it takes. It takes a
line of at most `maxLineBytes` bytes, and the line feed behind it only if the line is shorter than
that. A carriage return at the end of the line is dropped in either case, even where the bound and
not a line feed has ended the line.

How often a reading calls the kernel is bounded by the program alone. This is proved over the tree of
its calls, for whatever answers them, with the refusals among the answers.
-/

namespace Lifecycle

namespace Program

variable {α β : Type}

/-! ### The line at the head of the input -/

/-- How many bytes stand in front of the first line feed; all of them, if there is none. -/
def firstLineFeed (input : List UInt8) : Nat := input.findIdx (· == lineFeed)

/-- The line at the head of the input, as far as one reading goes. -/
def lineHead (input : List UInt8) : List UInt8 :=
  input.take (min (firstLineFeed input) maxLineBytes)

/-- What the reading takes behind the line. -/
def lineEnd (input : List UInt8) : List UInt8 :=
  if firstLineFeed input < maxLineBytes ∧ firstLineFeed input < input.length then [lineFeed] else []

/-- The input that the reading leaves. -/
def lineRest (input : List UInt8) : List UInt8 :=
  input.drop ((lineHead input).length + (lineEnd input).length)

/-- The ways in which input is split into a line, what is taken behind it and the rest. -/
inductive LineSplit (input line : List UInt8) : List UInt8 → List UInt8 → Prop where
  /-- A line feed ends the line. -/
  | fed {rest : List UInt8} (whole : input = line ++ lineFeed :: rest) (oneLine : lineFeed ∉ line)
      (fits : line.length < maxLineBytes) : LineSplit input line [lineFeed] rest
  /-- The end of the input ends the line. -/
  | last (whole : input = line) (oneLine : lineFeed ∉ line) (fits : line.length < maxLineBytes) :
      LineSplit input line [] []
  /-- The bound ends the line. -/
  | cut {rest : List UInt8} (whole : input = line ++ rest) (oneLine : lineFeed ∉ line)
      (full : line.length = maxLineBytes) : LineSplit input line [] rest

theorem lineFeed_notMem_take {input : List UInt8} {count : Nat}
    (below : count ≤ firstLineFeed input) : lineFeed ∉ input.take count := by
  intro member
  rw [List.mem_take_iff_getElem] at member
  rcases member with ⟨place, inRange, here⟩
  have before : place < firstLineFeed input := by omega
  have other := List.not_of_lt_findIdx before
  rw [here, beq_self_eq_true] at other
  cases other

theorem drop_firstLineFeed {input : List UInt8} (present : firstLineFeed input < input.length) :
    input.drop (firstLineFeed input) = lineFeed :: input.drop (firstLineFeed input + 1) := by
  have found : input[firstLineFeed input] = lineFeed :=
    beq_iff_eq.mp (List.findIdx_getElem (w := present))
  rw [List.drop_eq_getElem_cons present, found]

theorem lineSplit (input : List UInt8) :
    LineSplit input (lineHead input) (lineEnd input) (lineRest input) := by
  have inside : firstLineFeed input ≤ input.length := List.findIdx_le_length
  have oneLine : lineFeed ∉ lineHead input := lineFeed_notMem_take (Nat.min_le_left _ _)
  have size : (lineHead input).length = min (firstLineFeed input) maxLineBytes := by
    rw [lineHead, List.length_take]
    omega
  by_cases fed : firstLineFeed input < maxLineBytes ∧ firstLineFeed input < input.length
  · have ending : lineEnd input = [lineFeed] := if_pos fed
    have head : lineHead input = input.take (firstLineFeed input) := by
      rw [lineHead, Nat.min_eq_left (Nat.le_of_lt fed.1)]
    have rest : lineRest input = input.drop (firstLineFeed input + 1) := by
      rw [lineRest, size, ending, Nat.min_eq_left (Nat.le_of_lt fed.1)]
      rfl
    rw [ending]
    refine .fed ?_ oneLine (by omega)
    rw [head, rest, ← drop_firstLineFeed fed.2, List.take_append_drop]
  · have ending : lineEnd input = [] := if_neg fed
    have rest : lineRest input = input.drop (min (firstLineFeed input) maxLineBytes) := by
      rw [lineRest, size, ending]
      rfl
    rw [ending]
    -- Without a line feed within the bound, either the input ends first or the bound does.
    by_cases fits : firstLineFeed input < maxLineBytes
    · have all : min (firstLineFeed input) maxLineBytes = input.length := by omega
      rw [rest, all, List.drop_length]
      refine .last ?_ oneLine (by omega)
      rw [lineHead, all, List.take_length]
    · refine .cut ?_ oneLine (by omega)
      rw [rest, lineHead, List.take_append_drop]

theorem LineSplit.append {input line ending rest : List UInt8}
    (split : LineSplit input line ending rest) : line ++ ending ++ rest = input := by
  cases split with
  | fed whole => rw [whole, List.append_assoc, List.singleton_append]
  | last whole => rw [whole, List.append_nil, List.append_nil]
  | cut whole => rw [whole, List.append_nil]

theorem LineSplit.oneLine {input line ending rest : List UInt8}
    (split : LineSplit input line ending rest) : lineFeed ∉ line := by
  cases split <;> assumption

/-- The line without a carriage return at its end. -/
def withoutReturn (line : List UInt8) : List UInt8 :=
  if line.getLast? = some carriageReturn then line.dropLast else line

theorem lineText_reverse_eq (line : List UInt8) :
    lineText line.reverse = Utf8.decode (withoutReturn line) := by
  unfold withoutReturn
  split
  next returned =>
      obtain ⟨earlier, rfl⟩ := List.getLast?_eq_some_iff.mp returned
      rw [List.reverse_append, List.reverse_singleton, List.singleton_append, lineText_return,
        List.dropLast_concat]
  next unreturned => exact lineText_reverse unreturned

/-! ### Programs of a bounded number of reads -/

/-- A program that is through after at most so many reads of one byte, whatever they return. -/
inductive ReadsBytes : Nat → Program α → Prop where
  | done (reads : Nat) (value : α) : ReadsBytes reads (.done value)
  | read {reads : Nat} (byte : UInt8) {next : Int32 → List UInt8 → Program α}
      (later : ∀ value buffer, ReadsBytes reads (next value buffer)) :
      ReadsBytes (reads + 1) (.read inputDescriptor [byte] next)

theorem ReadsBytes.bind_done {reads : Nat} {program : Program α} (bounded : ReadsBytes reads program)
    (finish : α → β) : ReadsBytes reads (bind (fun value => .done (finish value)) program) := by
  induction bounded with
  | done reads value => exact .done reads (finish value)
  | read byte later ih => exact .read byte ih

theorem readsBytes_collectLine (room : Nat) (buffer : UInt8) (collected : List UInt8) :
    ReadsBytes room (collectLine room buffer collected) := by
  induction room generalizing buffer collected with
  | zero => exact .done 0 collected
  | succ room ih =>
      refine .read buffer ?_
      intro value bytes
      simp only
      split
      · exact .done room collected
      · exact ih _ _

theorem readsBytes_readLine : ReadsBytes maxLineBytes readLine :=
  (readsBytes_collectLine maxLineBytes 0 []).bind_done lineText

/-- The calls of a program, in order, where `answer` carries them out. -/
def callsOver {σ : Type} (answer : Syscall.Call → σ → Option Syscall.Reply × σ) :
    Program α → σ → List Syscall.Call
  | done _, _ => []
  | crash, _ => []
  | exit status, _ => [.exit status]
  | halt next, state =>
    .halt :: match answer .halt state with
      | (none, _) => []
      | (some reply, state) => callsOver answer (next reply.value) state
  | exec name arguments next, state =>
    .exec name arguments :: match answer (.exec name arguments) state with
      | (none, _) => []
      | (some reply, state) => callsOver answer (next reply.value) state
  | join target next, state =>
    .join target :: match answer (.join target) state with
      | (none, _) => []
      | (some reply, state) => callsOver answer (next reply.value reply.status) state
  | read descriptor buffer next, state =>
    .read descriptor buffer :: match answer (.read descriptor buffer) state with
      | (none, _) => []
      | (some reply, state) => callsOver answer (next reply.value reply.buffer) state
  | write descriptor bytes next, state =>
    .write descriptor bytes :: match answer (.write descriptor bytes) state with
      | (none, _) => []
      | (some reply, state) => callsOver answer (next reply.value) state

section Answers

variable {σ : Type} {answer : Syscall.Call → σ → Option Syscall.Reply × σ} {reads : Nat}
  {program : Program α}

theorem ReadsBytes.callsOver_eq (bounded : ReadsBytes reads program) (state : σ) :
    ∃ buffers : List UInt8, buffers.length ≤ reads ∧
      program.callsOver answer state = buffers.map fun byte => .read inputDescriptor [byte] := by
  -- By induction on the tree of calls; a call without a reply is the last one.
  induction bounded generalizing state with
  | done reads value => exact ⟨[], Nat.zero_le reads, rfl⟩
  | read byte later ih =>
      cases answered : answer (.read inputDescriptor [byte]) state with
      | mk reply after =>
          cases reply with
          | none => exact ⟨[byte], by simp, by simp [callsOver, answered]⟩
          | some reply =>
              rcases ih reply.value reply.buffer after with ⟨buffers, few, calls⟩
              refine ⟨byte :: buffers, Nat.succ_le_succ few, ?_⟩
              simp only [callsOver, answered, calls, List.map_cons]

theorem ReadsBytes.exists_value (bounded : ReadsBytes reads program)
    (answers : ∀ byte state, (answer (.read inputDescriptor [byte]) state).1.isSome = true)
    (state : σ) : ∃ value after, program.runOver answer state = (some value, after) := by
  induction bounded generalizing state with
  | done reads value => exact ⟨value, state, rfl⟩
  | read byte later ih =>
      have replied := answers byte state
      cases answered : answer (.read inputDescriptor [byte]) state with
      | mk reply after =>
          rw [answered] at replied
          rcases Option.isSome_iff_exists.mp replied with ⟨given, rfl⟩
          simp only [runOver, answered]
          exact ih given.value given.buffer after

end Answers

/-- What is known of a program whatever answers its calls, if it only reads, byte by byte. -/
structure CallsBoundedly (reads : Nat) (program : Program α) : Prop where
  /-- Its only calls are reads of one byte, and there are no more than this. -/
  calls : ∀ {σ : Type} (answer : Syscall.Call → σ → Option Syscall.Reply × σ) (state : σ),
    ∃ buffers : List UInt8, buffers.length ≤ reads ∧
      program.callsOver answer state = buffers.map fun byte => .read inputDescriptor [byte]
  /-- It hands over a value if each of them gets a reply, which may be a refusal. -/
  ends : ∀ {σ : Type} (answer : Syscall.Call → σ → Option Syscall.Reply × σ),
    (∀ byte state, (answer (.read inputDescriptor [byte]) state).1.isSome = true) →
    ∀ state, ∃ value after, program.runOver answer state = (some value, after)

theorem ReadsBytes.callsBoundedly {reads : Nat} {program : Program α}
    (bounded : ReadsBytes reads program) : CallsBoundedly reads program := by
  refine ⟨?_, ?_⟩
  · intro σ answer state
    exact bounded.callsOver_eq state
  · intro σ answer answers state
    exact bounded.exists_value answers state

end Program

namespace Engine

open Program (lineHead lineEnd lineRest withoutReturn LineSplit lineSplit readLine)

variable {E σ : Type} {engine : Engine E σ}

theorem Reads.readLine_split (caller : Pid)
    (stores : ∀ system effects state, engine.system (engine.settle system effects state) = system)
    {input line ending rest : List UInt8} (split : LineSplit input line ending rest) :
    engine.Reads caller readLine input (Utf8.decode (withoutReturn line)) rest := by
  rw [← Program.lineText_reverse_eq]
  cases split with
  | fed whole oneLine fits => exact whole ▸ readLine_line caller stores oneLine fits rest
  | last whole oneLine fits =>
      subst whole
      exact readLine_end caller stores oneLine fits
  | cut whole oneLine full => exact whole ▸ readLine_bounded caller stores oneLine full rest

/-- What one line reading takes of the input, and what it returns. -/
structure TakesLine (engine : Engine E σ) (caller : Pid) (state : σ) : Prop where
  /-- It returns the line, decoded and without a carriage return at its end. -/
  text : (readLine.runOver (engine.handle caller) state).1 =
    some (Utf8.decode (withoutReturn (lineHead (engine.system state).console.input)))
  /-- The input loses the line and what was taken behind it; the output stays as it is. -/
  console : (engine.system (readLine.runOver (engine.handle caller) state).2).console =
    { (engine.system state).console with input := lineRest (engine.system state).console.input }
  kernel : engine.kernel (readLine.runOver (engine.handle caller) state).2 = engine.kernel state
  /-- No other byte is lost, and none is moved. -/
  whole : lineHead (engine.system state).console.input ++
      lineEnd (engine.system state).console.input ++
      lineRest (engine.system state).console.input =
    (engine.system state).console.input
  oneLine : Program.lineFeed ∉ lineHead (engine.system state).console.input

/--
A line reading takes the line at the head of the input and the line feed behind it, if the line is
shorter than `maxLineBytes`; a longer one it takes up to this bound. It returns just what it took,
without the line ending, and all later bytes stay where they are. Whatever the kernel replies, the
reading ends within `maxLineBytes` calls.
-/
theorem line_reading_takes_one_line
    (stores : ∀ system effects state, engine.system (engine.settle system effects state) = system)
    (caller : Pid) (state : σ) :
    engine.TakesLine caller state ∧ Program.CallsBoundedly maxLineBytes readLine := by
  have split := lineSplit (engine.system state).console.input
  rcases Reads.readLine_split caller stores split state rfl with
    ⟨after, returns, leaves, unchanged⟩
  refine ⟨⟨?_, ?_, ?_, split.append, split.oneLine⟩, Program.readsBytes_readLine.callsBoundedly⟩
  · rw [returns]
  · rw [returns, leaves]
  · rw [returns, unchanged]

end Engine

/-- Input in which the bound falls between a carriage return and the line feed behind it. -/
def Program.returnAtBound : List UInt8 :=
  List.replicate 255 0x7A ++ [carriageReturn, lineFeed, 0xFF]

/-- The carriage return is taken and dropped, while the line feed stays. -/
theorem Engine.line_reading_takes_return_at_bound :
    let engine := Session.engine none (Session.runSteps []) 0
    let scene : Session.Scene :=
      { session := { system := .boot {} (.ofList []) (Console.push {} Program.returnAtBound) } }
    Program.lineHead Program.returnAtBound = List.replicate 255 0x7A ++ [Program.carriageReturn] ∧
      Program.lineRest Program.returnAtBound = [Program.lineFeed, 0xFF] ∧
      (engine.system scene).console.input = Program.returnAtBound ∧
      engine.TakesLine .root scene ∧
      Program.CallsBoundedly maxLineBytes Program.readLine := by
  have lawful := Session.lawful_engine none 0 (Session.returns_runSteps [])
  exact ⟨by decide +kernel, by decide +kernel, rfl,
    line_reading_takes_one_line lawful.system_settle .root _⟩

end Lifecycle
