import Lifecycle.Proofs.Deeds
import Lifecycle.Proofs.DirectCalls
import Mathlib.Algebra.GroupWithZero.Nat
import Mathlib.Data.List.DropRight
import Mathlib.Data.List.Induction

/-!
# Accounts of system calls

A system call that is dispatched is counted before it is carried out, recorded when it begins, and
recorded once more if it returns. Between the two records anything may happen, other calls included,
and a call that is abandoned never returns. This file proves that the counters and the trace are exact
nevertheless: the counters say how often each call was made since the last reset, and the trace is the
tree of the calls, written out.

All that is proved of one moment is proved of a run from its end, mark by mark.
-/

namespace Lifecycle

namespace Syscall

namespace Number

theorem mem_all (number : Number) : number ∈ all := by
  cases number <;> simp [all]

theorem pairwise_code_all : (all.map code).Pairwise (· < ·) := by decide

end Number

namespace Stats

theorem count_zero (number : Number) : zero.count number = 0 := by
  simp [zero, count]

variable (stats : Stats)

theorem total_eq_sum : stats.total = (Number.all.map stats.count).sum := by
  simp [total, Number.all]

theorem mem_nonzero_iff {number : Number} {count : Nat} :
    (number, count) ∈ stats.nonzero ↔ count = stats.count number ∧ stats.count number ≠ 0 := by
  simp only [nonzero, List.mem_filter, List.mem_map, Prod.mk.injEq, bne_iff_ne]
  constructor
  · rintro ⟨⟨_, _, rfl, rfl⟩, used⟩
    exact ⟨rfl, used⟩
  · rintro ⟨rfl, used⟩
    exact ⟨⟨number, number.mem_all, rfl, rfl⟩, used⟩

theorem pairwise_code_nonzero : (stats.nonzero.map fun entry => entry.1.code).Pairwise (· < ·) := by
  have kept : (stats.nonzero.map fun entry => entry.1.code).Sublist (Number.all.map Number.code) := by
    have listed := (List.filter_sublist (l := Number.all.map fun number =>
      (number, stats.count number)) (p := fun entry => entry.2 != 0)).map fun entry => entry.1.code
    simpa [nonzero, Function.comp_def] using listed
  exact Number.pairwise_code_all.sublist kept

end Stats

end Syscall

namespace Session

open Syscall (Number Stats)

/-! ### Counters -/

/-- The marks after the last reset. -/
def sinceReset (marks : List Mark) : List Mark := marks.rtakeWhile fun mark => mark ≠ .reset

/-- A call of a defined number was counted. -/
def Mark.isCounted : Mark → Bool
  | .counted _ => true
  | _ => false

/-- The counters say how often each call was made since the last reset. -/
structure Tallied (marks : List Mark) (stats : Stats) : Prop where
  count_eq : ∀ number, stats.count number = (sinceReset marks).count (.counted number)
  unknown_eq : stats.unknown = (sinceReset marks).count .unknown
  total_eq : stats.total = (sinceReset marks).countP Mark.isCounted
  total_eq_sum : stats.total = (Number.all.map stats.count).sum
  /-- Exactly the calls that were made are listed, with their counts. -/
  mem_nonzero_iff : ∀ number count, (number, count) ∈ stats.nonzero ↔
    count = (sinceReset marks).count (.counted number) ∧ .counted number ∈ sinceReset marks
  /-- They are listed once each, in the order of their codes. -/
  ascending : (stats.nonzero.map fun entry => entry.1.code).Pairwise (· < ·)

theorem sum_count_counted (marks : List Mark) :
    (Number.all.map fun number => marks.count (.counted number)).sum =
      marks.countP Mark.isCounted := by
  induction marks with
  | nil => rfl
  | cons mark marks ih =>
      rw [List.countP_cons, ← ih]
      cases mark with
      | counted number =>
          cases number <;> simp [Number.all, List.count_cons, Mark.isCounted] <;> omega
      | _ => simp [Mark.isCounted]

theorem Tallied.of_count {marks : List Mark} {stats : Stats}
    (count : ∀ number, stats.count number = (sinceReset marks).count (.counted number))
    (unknown : stats.unknown = (sinceReset marks).count .unknown) : Tallied marks stats where
  count_eq := count
  unknown_eq := unknown
  total_eq := by
    rw [stats.total_eq_sum, ← sum_count_counted, List.map_congr_left fun number _ => count number]
  total_eq_sum := stats.total_eq_sum
  mem_nonzero_iff number calls := by
    rw [stats.mem_nonzero_iff, count, ← Nat.pos_iff_ne_zero, List.count_pos_iff]
  ascending := stats.pairwise_code_nonzero

theorem tallied_nil : Tallied [] .zero := .of_count Stats.count_zero rfl

theorem sinceReset_snoc (marks : List Mark) (mark : Mark) :
    sinceReset (marks ++ [mark]) = if mark = .reset then [] else sinceReset marks ++ [mark] := by
  by_cases reset : mark = .reset <;> simp [sinceReset, reset]

/-- A mark that is not of the counters makes no difference to their account. -/
theorem Tallied.snoc_of_idle {marks : List Mark} {mark : Mark} {stats : Stats}
    (tallied : Tallied marks stats) (other : mark ≠ .reset) (undefined : mark ≠ .unknown)
    (defined : ∀ number, mark ≠ .counted number) : Tallied (marks ++ [mark]) stats :=
  .of_count
    (fun number => by simp [sinceReset_snoc, other, defined, tallied.count_eq])
    (by simp [sinceReset_snoc, other, undefined, tallied.unknown_eq])

/-- One more mark makes the difference to the counters that it makes to their account. -/
theorem Tallied.snoc {before after : Periphery} {marks : List Mark} {mark : Mark}
    (tallied : Tallied marks before.stats) (shows : before.Shows mark after) :
    Tallied (marks ++ [mark]) after.stats := by
  cases shows with
  | @counted number =>
      apply Tallied.of_count
      · intro other
        simp only [Stats.count_record, sinceReset_snoc, reduceCtorEq, if_false, List.count_append,
          ← tallied.count_eq]
        by_cases same : number = other <;> simp [same]
      · simpa [sinceReset_snoc, Stats.record] using tallied.unknown_eq
  | unknown =>
      apply Tallied.of_count
      · intro other
        simpa [sinceReset_snoc, Stats.recordUnknown, Stats.count] using tallied.count_eq other
      · simpa [sinceReset_snoc, Stats.recordUnknown] using tallied.unknown_eq
  | reset =>
      exact .of_count (fun number => by simp [sinceReset_snoc, Stats.count_zero])
        (by simp [sinceReset_snoc, Stats.zero])
  | _ => exact tallied.snoc_of_idle (by simp) (by simp) (by simp)

theorem Periphery.Run.tallied {before after : Periphery} {marks : List Mark}
    (run : before.Run marks after) (fresh : before.stats = .zero) :
    Tallied marks after.stats := by
  induction marks using List.reverseRecOn generalizing after with
  | nil =>
      cases run
      rw [fresh]
      exact tallied_nil
  | append_singleton marks mark ih =>
      rcases run.split_cons with ⟨middle, next, first, shows, last⟩
      cases last
      exact (ih first).snoc shows

/-! ### The trace -/

/-- The call that an action dispatches, and who makes it. -/
def Action.dispatch? : Action → Option (Pid × Syscall.Call)
  | .handle caller call => some (caller, call)
  | .raw caller code _ =>
    (Number.ofCode? code).map fun number => (caller, .unsupported number)
  | _ => none

/-- What the call returned, unless it was abandoned. -/
def Action.result? : Action → Answer → Option Int32
  | .handle _ _, .replied _ reply => some reply.value
  | .raw _ _ _, .value value => some value
  | _, _ => none

mutual

/--
The records of the calls that a deed dispatched, as they are nested: the beginning of its own, those
that were dispatched meanwhile, and its end if it returned.
-/
def Deed.trace : Deed → List Log.Record
  | .mk action answer meanwhile =>
    match action.dispatch? with
    | some (caller, call) =>
      .entered caller call ::
        (traceOf meanwhile ++ ((action.result? answer).map (.returned caller call.number)).toList)
    | none => traceOf meanwhile

/-- The records of some deeds in order of time. -/
def traceOf : List Deed → List Log.Record
  | [] => []
  | deed :: deeds => deed.trace ++ traceOf deeds

end

/-- The record that a mark is of. -/
def Mark.record? : Mark → Option Log.Record
  | .entered caller call => some (.entered caller call)
  | .returned caller number value => some (.returned caller number value)
  | _ => none

theorem filterMap_record?_exchange (reply : Syscall.Reply) (call : Syscall.Call) :
    (exchange reply call).filterMap Mark.record? = [] := by
  cases call <;> rfl

theorem filterMap_record?_opening (action : Action) :
    action.opening.filterMap Mark.record? =
      (action.dispatch?.map fun dispatched => .entered dispatched.1 dispatched.2).toList := by
  cases action with
  | raw caller code counted =>
      cases known : Number.ofCode? code <;> cases counted <;>
        simp [Action.opening, Action.dispatch?, known, List.filterMap_cons, Mark.record?]
  | _ => rfl

theorem filterMap_record?_closing (action : Action) (answer : Answer) :
    (action.closing answer).filterMap Mark.record? =
      (action.dispatch?.bind fun dispatched =>
        (action.result? answer).map (.returned dispatched.1 dispatched.2.number)).toList := by
  cases action with
  | handle caller call =>
      cases answer with
      | replied _ reply =>
          simp [Action.closing, Action.dispatch?, Action.result?, Mark.record?,
            filterMap_record?_exchange]
      | _ => rfl
  | perform caller call =>
      cases answer with
      | replied _ reply => exact filterMap_record?_exchange reply call
      | _ => rfl
  | raw caller code counted =>
      cases known : Number.ofCode? code with
      | none => cases answer <;> simp [Action.closing, Action.dispatch?, known]
      | some number =>
          cases answer with
          | value value =>
              simp [Action.closing, Action.dispatch?, Action.result?, known, Mark.record?,
                Syscall.Call.number]
          | _ => simp [Action.closing, Action.result?]
  | output | stats => cases answer <;> rfl
  | _ => rfl

mutual

theorem filterMap_record?_marks (deed : Deed) :
    deed.marks.filterMap Mark.record? = deed.trace := by
  cases deed with
  | mk action answer meanwhile =>
      rw [Deed.marks, Deed.trace, List.filterMap_append, List.filterMap_append,
        filterMap_record?_opening, filterMap_record?_closing, filterMap_record?_marksOf meanwhile]
      cases action.dispatch? <;> simp

/-- The records among the marks are the trace. -/
theorem filterMap_record?_marksOf (deeds : List Deed) :
    (marksOf deeds).filterMap Mark.record? = traceOf deeds := by
  cases deeds with
  | nil => rfl
  | cons deed deeds =>
      rw [marksOf, traceOf, List.filterMap_append, filterMap_record?_marks deed,
        filterMap_record?_marksOf deeds]

end

theorem Periphery.Run.trace_eq {before after : Periphery} {marks : List Mark}
    (run : before.Run marks after) :
    after.trace.reverse = before.trace.reverse ++ marks.filterMap Mark.record? := by
  induction run with
  | nil => simp
  | cons shows _ ih =>
      rw [ih]
      cases shows <;> simp [List.filterMap_cons, Mark.record?]

/-! ### Accounts -/

/-- After deeds in a fresh session, the counters and the trace are an exact account of them. -/
structure Accounted (deeds : List Deed) (session : Session) : Prop where
  tallied : Tallied (marksOf deeds) session.system.stats
  /-- So they are whenever somebody looks. -/
  asked : ∀ earlier stats later, marksOf deeds = earlier ++ .asked stats :: later →
    Tallied earlier stats
  trace_eq : (traced session.log).reverse = traceOf deeds

/-- The answer of a step. -/
def StepResult.answer : StepResult → Answer
  | .mk answer _ _ => answer

theorem answer_plain (result : StepResult) : result.plain.answer = result.answer.plain := by
  cases result
  rfl

/-- It makes no difference to kernel, console and answers which calls are counted and recorded. -/
structure Transparent (session : Session) (steps : List Step) : Prop where
  /-- In a whole script, at any depth. -/
  scripts : ∀ others, directSteps others = directSteps steps →
    plainResults (runSteps others session).1 = plainResults (runSteps steps session).1 ∧
      (runSteps steps session).2.Alike (runSteps others session).2
  /-- In the next call after it. -/
  calls : ∀ caller call refusal during pauses,
    let after := (runSteps steps session).2
    let handled := runStep (.mk (.handle caller call) refusal during pauses) after
    let performed := runStep (.mk (.perform caller call) refusal during pauses) after
    performed.1.answer = handled.1.answer ∧ handled.2.Alike performed.2

theorem transparent (session : Session) (steps : List Step) : Transparent session steps where
  scripts others same := runSteps_alike same (Alike.refl session)
  calls caller call refusal during pauses := by
    have same : directSteps [.mk (.perform caller call) refusal during pauses] =
        directSteps [.mk (.handle caller call) refusal during pauses] := rfl
    rcases runSteps_alike same (Alike.refl (runSteps steps session).2) with ⟨results, left⟩
    refine ⟨?_, left⟩
    have answers := congrArg StepResult.answer (List.cons.inj results).1
    rw [answer_plain, answer_plain] at answers
    -- Neither answer shows counters, so both are what is left of them.
    have shown (reply : Option Syscall.Reply) :
        (reply.elim Answer.blocked (.replied call)).plain = reply.elim .blocked (.replied call) := by
      cases reply <;> rfl
    exact (shown _).symm.trans (answers.trans (shown _))

theorem Periphery.Run.accounted {before : Periphery} {session : Session} {deeds : List Deed}
    (run : before.Run (marksOf deeds) session.periphery) (counters : before.stats = .zero)
    (log : before.trace = []) : Accounted deeds session where
  tallied := run.tallied counters
  asked earlier stats later split := by
    rw [split] at run
    rcases run.split_cons with ⟨middle, next, first, shows, _⟩
    cases shows
    exact first.tallied counters
  trace_eq := by
    have left := run.trace_eq
    rwa [log, filterMap_record?_marksOf] at left

/-- System calls are counted and recorded exactly, and nothing else changes by that. -/
theorem dispatch_is_exact_and_transparent (config : KernelConfig) (images : List (Image String))
    (console : Console) (steps : List Step) :
    Accounted (deeds steps (runSteps steps (boot config images console)).1)
        (runSteps steps (boot config images console)).2 ∧
      Transparent (boot config images console) steps :=
  ⟨((explains_runSteps steps).run (boot config images console)).accounted rfl rfl, transparent _ steps⟩

/-- A child writes before its creation returns, and ends while its parent waits for it. -/
example :
    let steps : List Step :=
      [.mk (.boot "a.coff" []) none [] [],
        .mk (.handle .root (.exec "a.coff" [])) none
          [.mk (.handle ⟨1⟩ (.write outputDescriptor [120])) none [] []] [],
        .mk (.handle .root (.join 1)) none [] [[.mk (.handle ⟨1⟩ (.exit 7)) none [] []]]]
    traceOf (deeds steps (runSteps steps (boot {} [⟨"a.coff", 1, "a"⟩] {})).1) =
      [.entered .root (.exec "a.coff" []), .entered ⟨1⟩ (.write outputDescriptor [120]),
        .returned ⟨1⟩ .write 1, .returned .root .exec 1,
        .entered .root (.join 1), .entered ⟨1⟩ (.exit 7), .returned ⟨1⟩ .exit 0,
        .returned .root .join 1] := by
  decide +kernel

end Session

end Lifecycle
