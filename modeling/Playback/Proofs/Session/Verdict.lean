import Playback.Proofs.Interpreter.Grammar
import Playback.Proofs.Ledger.Latest
import Playback.Proofs.Session.Course
import Playback.Simulation.Solo

/-!
# What the verdict of a session says

The verdict is read off a ledger that keeps the latest status of each step number. A step number may
occur more than once in a list, so a failure can be overruled by a later step of the same number.

* `FailuresOverruled` — **every failure is followed by a completion** under the same number;
* `overruled_of_passed` — a session that passed has only such failures, and none at all if the
  numbers of its steps are distinct;
* `passed_of_repeatedNumber` — a session that passed although a step failed.
-/

namespace Playback

open Routine

/-! ## Failures in a ledger -/

/-- **Every failure is overruled**: a later event says that the number of the step was completed. -/
def FailuresOverruled (events : List ProgressEvent) : Prop :=
  ∀ before e rest, events = before ++ e :: rest → e.status = .failed →
    ∃ f ∈ rest, f.indexStep = e.indexStep ∧ f.status = .completed

/-- **Without failed numbers and skipped steps** every failure is overruled. -/
theorem overruled_of_counts {events : List ProgressEvent}
    (noneFailed : (Ledger.ofEvents events).counts.failed = 0)
    (noneSkipped : ∀ e ∈ events, e.status ≠ .skipped) : FailuresOverruled events := by
  intro before e rest split failed
  by_contra never
  have agree : ∀ f ∈ rest, f.indexStep = e.indexStep → f.status.isTerminal →
      f.status = e.status := by
    intro f mem same terminal
    cases status : f.status with
    | processing => simp [status, StepStatus.isTerminal] at terminal
    | completed => exact absurd ⟨f, mem, same, status⟩ never
    | failed => exact failed.symm
    | skipped =>
      refine absurd status (noneSkipped f ?_)
      rw [split]
      exact List.mem_append_right before (List.mem_cons_of_mem e mem)
  have latest : (Ledger.ofEvents events).status? e.indexStep = some .failed := by
    rw [split, Ledger.status?_ofEvents_of_last (by rw [failed]; rfl) agree, failed]
  exact (Ledger.sorted_ofEvents events).countOf_eq_zero.1 noneFailed e.indexStep latest

/-- **Where no number has two terminal events** an overruled failure cannot be. -/
theorem FailuresOverruled.not_failed {events : List ProgressEvent} (h : FailuresOverruled events)
    (once : ((events.filter (·.status.isTerminal)).map (·.indexStep)).Nodup) :
    ∀ e ∈ events, e.status ≠ .failed := by
  intro e mem failed
  obtain ⟨before, rest, split⟩ := List.append_of_mem mem
  obtain ⟨f, later, same, completed⟩ := h before e rest split failed
  have terminal : e.status.isTerminal = true := by rw [failed]; rfl
  rw [split, List.filter_append, List.filter_cons, if_pos terminal, List.map_append,
    List.map_cons, List.nodup_append] at once
  refine (List.nodup_cons.1 once.2.1).1 ?_
  rw [← same]
  refine List.mem_map_of_mem (List.mem_filter.2 ⟨later, ?_⟩)
  rw [completed]
  rfl

/-! ## Sessions -/

/-- A verdict is `passed` only of a run that was neither cancelled nor halted, and without failed
numbers. -/
theorem Engine.verdict_eq_passed {outcome : RunOutcome} {counts : StatusCounts}
    (h : verdict outcome counts = .passed) :
    outcome.cancelled = false ∧ outcome.halted = false ∧ counts.failed = 0 := by
  rw [verdict] at h
  split at h
  · exact nomatch h
  · next calm =>
    split at h
    · exact nomatch h
    · next sound =>
      rw [not_or] at sound
      exact ⟨by simpa using calm, by simpa using sound.2, Nat.eq_zero_of_not_pos sound.1⟩

/-- **A session that passed** carried its steps out without being halted, and the counts it was
judged by show no failed number. -/
theorem SessionCourse.of_passed {engine : Engine} {request : RunRequest} {t : Transcript}
    {summary : RunSummary} (h : SessionCourse engine request t summary)
    (passed : summary.status = .passed) :
    ∃ blocks outcome,
      EventGrammar engine.registry request.steps blocks t.events outcome ∧
      outcome.halted = false ∧ (Ledger.ofEvents t.events).counts.failed = 0 := by
  cases h with
  | unopened lead =>
    rcases lead.setback_cases (.inl rfl) with ⟨status, -⟩ | ⟨status, -⟩
    · exact nomatch status.symm.trans passed
    · exact nomatch status.symm.trans passed
  | abandoned lead =>
    rcases lead.setback_cases (.inr rfl) with ⟨status, -⟩ | ⟨status, -⟩
    · exact nomatch status.symm.trans passed
    · exact nomatch status.symm.trans passed
  | @played t u started finished outcome closed lead steps =>
    obtain ⟨blocks, grammar⟩ := yields_eventGrammar steps
    obtain ⟨-, goesOn, noneFailed⟩ := Engine.verdict_eq_passed passed
    rw [Transcript.events_append, lead.events_eq_nil, List.nil_append, Transcript.events_append]
    have silent : Transcript.events [⟨.shielded .close, closed⟩, ⟨.clock, finished⟩,
        .summing (Engine.played request started finished outcome
          (Ledger.ofEvents (Transcript.events u)))] = [] := rfl
    rw [silent, List.append_nil]
    exact ⟨blocks, outcome, grammar, goesOn, noneFailed⟩

/-- **In a session that passed every failure is overruled** by a completion under the same step
number, so that no step failed if the numbers of the steps are distinct. -/
theorem overruled_of_passed {σ : Type} (w : World σ) (engine : Engine) (request : RunRequest)
    (s : σ) (passed : (w.run (engine.session request) s).1.status = .passed) :
    FailuresOverruled (w.events (engine.session request) s) ∧
      ((request.steps.map (·.indexStep)).Nodup →
        ∀ e ∈ w.events (engine.session request) s, e.status ≠ .failed) := by
  have course := yields_session (w.yields (engine.session request) s)
  obtain ⟨blocks, outcome, grammar, goesOn, noneFailed⟩ := course.of_passed passed
  have overruled : FailuresOverruled (w.events (engine.session request) s) :=
    overruled_of_counts noneFailed fun e mem => grammar.status_ne_skipped goesOn mem
  refine ⟨overruled, fun distinct => overruled.not_failed ?_⟩
  rw [World.events, grammar.terminal_index]
  rw [if_neg (by simp [goesOn])]
  exact distinct.sublist ((List.take_sublist _ _).map _)

/-- Two steps of one number: the first has an unknown action, the second loads a page. -/
def repeatedNumber : RunRequest where
  sessionId := "session"
  steps := [{ indexStep := 1, action := "hover" },
    { indexStep := 1, action := "navigate", url := some "https://example.com" }]

/-- Its second step alone. -/
def distinctNumbers : RunRequest :=
  { repeatedNumber with steps := repeatedNumber.steps.drop 1 }

/-- The handlers and the configuration that nothing was changed in. -/
def Engine.standard : Engine := ⟨Registry.standard, {}⟩

/-- A page on which everything succeeds. -/
def obligingPage : World Simulation.Solo := Simulation.solo { epoch := ⟨0, 0⟩ }

/-- Two sessions that passed: one with a failure that was overruled, one without a failure. -/
theorem overruled_and_not_failed :
    ((obligingPage.run (Engine.standard.session repeatedNumber) {}).1.status = .passed ∧
      FailuresOverruled (obligingPage.events (Engine.standard.session repeatedNumber) {})) ∧
    ((obligingPage.run (Engine.standard.session distinctNumbers) {}).1.status = .passed ∧
      ∀ e ∈ obligingPage.events (Engine.standard.session distinctNumbers) {},
        e.status ≠ .failed) :=
  ⟨⟨rfl, (overruled_of_passed obligingPage Engine.standard repeatedNumber {} rfl).1⟩,
    rfl, (overruled_of_passed obligingPage Engine.standard distinctNumbers {} rfl).2
      (by decide)⟩

/-- **A session may pass although a step failed**, if the number of the step occurs again. -/
theorem passed_of_repeatedNumber :
    (obligingPage.run (Engine.standard.session repeatedNumber) {}).1.status = .passed ∧
      ∃ e ∈ obligingPage.events (Engine.standard.session repeatedNumber) {},
        e.status = .failed :=
  ⟨rfl, _, List.mem_cons_self, rfl⟩

end Playback
