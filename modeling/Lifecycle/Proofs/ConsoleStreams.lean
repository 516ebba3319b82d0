import Lifecycle.Proofs.Deeds

/-!
# Console streams

All processes share the two streams of the console. This file proves that nothing is lost or reordered
on them, however the calls of a session are nested: what reads deliver, followed by what is still
queued, is all the input there was, and the output is what writes appended, in the order of the calls.

The marks of a session stand in order of time. So the streams are read off a run of the periphery, by
induction on the run, and each single call is described at its moment between two parts of it.
-/

namespace Lifecycle

namespace Syscall.Reply

/-- A count is reported as it is, or as the largest integer there is. -/
theorem toInt_countValue (count : Nat) :
    (countValue count).toInt = (min count 2147483647 : Nat) := by
  unfold countValue
  split
  · rename_i below
    rw [Int32.toInt_ofNat_of_lt below]
    omega
  · have largest : Int32.maxValue.toInt = 2147483647 := rfl
    rw [largest]
    omega

end Syscall.Reply

namespace Session

/-! ### Streams -/

/-- The input that is queued with a mark. -/
def Mark.input : Mark → List UInt8
  | .pushed bytes => bytes
  | _ => []

/-- The output that is written with a mark. -/
def Mark.output : Mark → List UInt8
  | .written descriptor bytes _ => if descriptor = outputDescriptor then bytes else []
  | _ => []

/-- All input that was queued. -/
def pushedIn (marks : List Mark) : List UInt8 := marks.flatMap Mark.input

/-- All output that was written. -/
def writtenIn (marks : List Mark) : List UInt8 := marks.flatMap Mark.output

/-- The input that was delivered, if so many bytes are queued at first. -/
def deliveredFrom : (queued : Nat) → List Mark → List UInt8
  | _, [] => []
  | queued, .pushed bytes :: marks => deliveredFrom (queued + bytes.length) marks
  | queued, .read descriptor buffer reply :: marks =>
    if descriptor = inputDescriptor then
      let count := min buffer.length queued
      reply.buffer.take count ++ deliveredFrom (queued - count) marks
    else deliveredFrom queued marks
  | queued, _ :: marks => deliveredFrom queued marks

/-- Between two consoles, the streams went on by what the marks show. -/
structure Conserved (start : Console) (marks : List Mark) (console : Console) : Prop where
  input_eq : deliveredFrom start.input.length marks ++ console.input = start.input ++ pushedIn marks
  output_eq : console.output = start.output ++ writtenIn marks
  mirror_eq : console.mirror? = start.mirror?.map (· ++ writtenIn marks)

/-- A read fills the front of its buffer from the queue, or is refused and leaves all as it is. -/
structure Reads (console : Console) (descriptor : Int32) (buffer : List UInt8)
    (reply : Syscall.Reply) (next : Console) : Prop where
  value : descriptor = inputDescriptor →
    reply.value.toInt = (min (min buffer.length console.input.length) 2147483647 : Nat)
  filled : descriptor = inputDescriptor →
    reply.buffer = console.input.take (min buffer.length console.input.length) ++
      buffer.drop (min buffer.length console.input.length)
  refused : descriptor ≠ inputDescriptor →
    reply.value = -1 ∧ reply.buffer = buffer ∧ next = console

/-- A write takes all its bytes, or is refused and leaves all as it is. -/
structure Writes (console : Console) (descriptor : Int32) (bytes : List UInt8)
    (reply : Syscall.Reply) (next : Console) : Prop where
  value : descriptor = outputDescriptor →
    reply.value.toInt = (min bytes.length 2147483647 : Nat)
  refused : descriptor ≠ outputDescriptor → reply.value = -1 ∧ next = console

/-- Everything that the marks show of the console is as the streams have it at that moment. -/
structure Lossless (start : Console) (marks : List Mark) (console : Console) : Prop extends
    Conserved start marks console where
  reads : ∀ earlier descriptor buffer reply later,
    marks = earlier ++ .read descriptor buffer reply :: later →
      ∃ before after, Conserved start earlier before ∧
        Conserved start (earlier ++ [.read descriptor buffer reply]) after ∧
          Reads before descriptor buffer reply after
  writes : ∀ earlier descriptor bytes reply later,
    marks = earlier ++ .written descriptor bytes reply :: later →
      ∃ before after, Conserved start earlier before ∧
        Conserved start (earlier ++ [.written descriptor bytes reply]) after ∧
          Writes before descriptor bytes reply after
  shows : ∀ earlier output later, marks = earlier ++ .shown output :: later →
    output = start.output ++ writtenIn earlier

/-! ### Single calls -/

section Calls

variable {before after : Periphery} {descriptor : Int32} {reply : Syscall.Reply}

theorem reads_of_shows {buffer : List UInt8}
    (shows : before.Shows (.read descriptor buffer reply) after) :
    Reads before.console descriptor buffer reply after.console := by
  cases shows with
  | read =>
      exact ⟨fun _ => Syscall.Reply.toInt_countValue _, fun _ => rfl, fun other => absurd rfl other⟩
  | notRead other =>
      exact ⟨fun same => absurd same other, fun same => absurd same other,
        fun _ => ⟨rfl, rfl, rfl⟩⟩

theorem writes_of_shows {bytes : List UInt8}
    (shows : before.Shows (.written descriptor bytes reply) after) :
    Writes before.console descriptor bytes reply after.console := by
  cases shows with
  | written =>
      exact ⟨fun _ => Syscall.Reply.toInt_countValue bytes.length, fun other => absurd rfl other⟩
  | notWritten other => exact ⟨fun same => absurd same other, fun _ => ⟨rfl, rfl⟩⟩

end Calls

/-! ### Runs -/

theorem Conserved.nil (console : Console) : Conserved console [] console where
  input_eq := by simp [deliveredFrom, pushedIn]
  output_eq := by simp [writtenIn]
  mirror_eq := by simp [writtenIn]

/-- A mark that leaves the console alone is neither input nor output. -/
theorem Conserved.cons_of_idle {start console : Console} {mark : Mark} {marks : List Mark}
    (later : Conserved start marks console)
    (delivered : deliveredFrom start.input.length (mark :: marks) =
      deliveredFrom start.input.length marks)
    (input : mark.input = []) (output : mark.output = []) :
    Conserved start (mark :: marks) console where
  input_eq := by simpa [delivered, pushedIn, input] using later.input_eq
  output_eq := by simpa [writtenIn, output] using later.output_eq
  mirror_eq := by simpa [writtenIn, output] using later.mirror_eq

/-- A mark in front of others is one more thing that goes on at the streams. -/
theorem Conserved.cons {before middle : Periphery} {mark : Mark} {marks : List Mark}
    {console : Console} (shows : before.Shows mark middle)
    (later : Conserved middle.console marks console) :
    Conserved before.console (mark :: marks) console := by
  cases shows with
  | @pushed bytes =>
      rcases later with ⟨input, output, mirror⟩
      refine ⟨?_, output, mirror⟩
      simpa [deliveredFrom, pushedIn, Mark.input, Console.push] using input
  | @read buffer =>
      rcases later with ⟨input, output, mirror⟩
      refine ⟨?_, output, mirror⟩
      -- What the read took and what it left are the queue from before.
      have parted := before.console.input_read buffer
      have left : before.console.input.length - min buffer.length before.console.input.length =
          (before.console.read buffer).2.2.input.length := by
        simp [Console.read]
      simp only [deliveredFrom, if_true, left]
      rw [List.append_assoc, input, ← List.append_assoc]
      exact congrArg (· ++ pushedIn marks) parted
  | @written bytes =>
      rcases later with ⟨input, output, mirror⟩
      refine ⟨input, ?_, ?_⟩
      · simpa [writtenIn, Mark.output] using output
      · simpa [writtenIn, Mark.output, Function.comp_def] using mirror
  | @notRead descriptor buffer other =>
      exact later.cons_of_idle (by simp [deliveredFrom, other]) rfl rfl
  | notWritten other => exact later.cons_of_idle rfl rfl (if_neg other)
  | _ => exact later.cons_of_idle rfl rfl rfl

namespace Periphery.Run

variable {before after : Periphery} {marks : List Mark}

theorem conserved (run : before.Run marks after) :
    Conserved before.console marks after.console := by
  induction run with
  | nil => exact .nil _
  | cons shows _ ih => exact ih.cons shows

/-- At the moment of a mark, the streams had come to two consoles before and after it. -/
theorem conserved_at {earlier later : List Mark} {mark : Mark}
    (run : before.Run (earlier ++ mark :: later) after) :
    ∃ middle next : Periphery, middle.Shows mark next ∧
      Conserved before.console earlier middle.console ∧
        Conserved before.console (earlier ++ [mark]) next.console := by
  rcases run.split_cons with ⟨middle, next, first, shows, _⟩
  exact ⟨middle, next, shows, first.conserved, (first.append (.single shows)).conserved⟩

theorem lossless (run : before.Run marks after) :
    Lossless before.console marks after.console where
  toConserved := run.conserved
  reads earlier descriptor buffer reply later split := by
    subst split
    rcases run.conserved_at with ⟨middle, next, shows, first, second⟩
    exact ⟨middle.console, next.console, first, second, reads_of_shows shows⟩
  writes earlier descriptor bytes reply later split := by
    subst split
    rcases run.conserved_at with ⟨middle, next, shows, first, second⟩
    exact ⟨middle.console, next.console, first, second, writes_of_shows shows⟩
  shows earlier output later split := by
    subst split
    rcases run.conserved_at with ⟨middle, next, shows, first, _⟩
    cases shows
    exact first.output_eq

end Periphery.Run

/--
Whatever a script does, and however its steps are nested, every read and every write is made and
returns, no byte is lost and none moves.
-/
theorem console_streams_are_lossless (session : Session) (steps : List Step) :
    Complete steps (deeds steps (runSteps steps session).1) ∧
      Lossless session.system.console (marksOf (deeds steps (runSteps steps session).1))
        (runSteps steps session).2.system.console :=
  ⟨complete_runSteps steps session, ((explains_runSteps steps).run session).lossless⟩

end Session

end Lifecycle
