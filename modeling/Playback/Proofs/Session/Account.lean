import Playback.Proofs.Interpreter.Stream
import Playback.Proofs.Ledger.Tally
import Playback.Proofs.Session.Verdict

/-!
# What the summary of a session recounts

A session keeps three records of its steps: the outcome of the interpreter, a ledger, and the events
told to the observer. Its summary agrees with all of them.

* `Recounts`, `session_recounts` — **the summary can be recomputed** from the events of the session;
* `Accounts`, `session_accounts` — **the counts of the summary add up**, and the verdict is read off
  them, in a session whose step numbers are distinct.
-/

namespace Playback

open Routine

/-! ## The summary and the events -/

/-- **A summary recounts the events** of a session. -/
structure Recounts (request : RunRequest) (events : List ProgressEvent) (summary : RunSummary) :
    Prop where
  /-- The numbers whose last terminal event completed them. -/
  completed_eq : summary.completed = tally events .completed
  /-- The numbers whose last terminal event failed them. -/
  failed_eq : summary.failed = tally events .failed
  /-- The numbers whose last terminal event skipped them. -/
  skipped_eq : summary.skipped = tally events .skipped
  /-- No number stays without a terminal event. -/
  settled : ∀ e ∈ events, ∃ f ∈ events, f.indexStep = e.indexStep ∧ f.status.isTerminal = true
  /-- The number of the last event that skips no step. -/
  lastIndexStep_eq : summary.lastIndexStep =
    (events.filter (·.status ≠ .skipped)).getLast?.map (·.indexStep)
  /-- The length of the step list. -/
  totalSteps_eq : summary.totalSteps = request.steps.length

/-- Where nothing is reported, a barren summary recounts it. -/
theorem Recounts.barren (request : RunRequest) (started finished : Nat) (status : RunStatus)
    (error : Option String) :
    Recounts request [] (Engine.barren request started finished status error) where
  completed_eq := rfl
  failed_eq := rfl
  skipped_eq := rfl
  settled := List.forall_mem_nil _
  lastIndexStep_eq := rfl
  totalSteps_eq := rfl

/-- **A summary with the ledger of the events** of some steps recounts them. -/
theorem EventGrammar.recounts {registry : Registry} {request : RunRequest}
    {blocks : List (List ProgressEvent)} {events : List ProgressEvent} {outcome : RunOutcome}
    (h : EventGrammar registry request.steps blocks events outcome) (started finished : Nat) :
    Recounts request events
      (Engine.played request started finished outcome (Ledger.ofEvents events)) where
  completed_eq := Ledger.countOf_ofEvents rfl
  failed_eq := Ledger.countOf_ofEvents rfl
  skipped_eq := Ledger.countOf_ofEvents rfl
  settled := fun _ => h.exists_terminal
  lastIndexStep_eq := h.lastIndexStep_eq_getLast?
  totalSteps_eq := rfl

/-- **The summary of every session recounts its events.** -/
theorem session_recounts {σ : Type} (w : World σ) (engine : Engine) (request : RunRequest) (s : σ) :
    Recounts request (w.events (engine.session request) s)
      (w.run (engine.session request) s).1 := by
  cases carried : w.outcome? engine request s with
  | none =>
    obtain ⟨silent, started, finished, setback, barren⟩ := World.session_of_idle carried
    rw [silent, barren]
    exact .barren request started finished setback.status setback.error
  | some outcome =>
    obtain ⟨started, ready⟩ := World.ready_of_outcome? carried
    obtain ⟨events, finished, played⟩ := World.session_of_ready ready
    obtain ⟨blocks, grammar⟩ := interpret_eventGrammar w engine.registry
      ⟨engine.config, request.data⟩ request.steps (w.ledTo engine request s)
    rw [events, played]
    exact grammar.recounts started finished

/-! ## The summary and the outcome -/

/-- **The counts of a summary add up**, and give the verdict on an outcome of the steps. -/
structure Accounts (request : RunRequest) (outcome : RunOutcome) (summary : RunSummary) :
    Prop where
  /-- Each step dispatched completed or failed. -/
  dispatched : summary.completed + summary.failed = outcome.stepsDispatched
  /-- After a halt the other steps are skipped. -/
  skipped : summary.skipped =
    if outcome.halted then summary.totalSteps - outcome.stepsDispatched else 0
  /-- Without a cancellation every step is accounted for. -/
  total : outcome.cancelled = false →
    summary.completed + summary.failed + summary.skipped = summary.totalSteps
  /-- The session was cancelled if the steps were. -/
  cancelled_iff : summary.status = .cancelled ↔ outcome.cancelled = true
  /-- It failed if it was not cancelled and a step failed. -/
  failed_iff : summary.status = .failed ↔ outcome.cancelled = false ∧ 0 < summary.failed
  /-- It passed if all steps completed. -/
  passed_iff : summary.status = .passed ↔ summary.completed = summary.totalSteps
  /-- The length of the step list. -/
  totalSteps_eq : summary.totalSteps = request.steps.length

namespace Engine

variable {outcome : RunOutcome} {counts : StatusCounts}

/-- A verdict is `cancelled` of a run that was cancelled. -/
theorem verdict_eq_cancelled_iff :
    verdict outcome counts = .cancelled ↔ outcome.cancelled = true := by
  rw [verdict]
  split
  · next cancelled => exact iff_of_true rfl cancelled
  · next calm => split <;> exact iff_of_false RunStatus.noConfusion calm

/-- A verdict is `failed` of a run that was not cancelled, but had a failed number or was halted. -/
theorem verdict_eq_failed_iff :
    verdict outcome counts = .failed ↔
      outcome.cancelled = false ∧ (0 < counts.failed ∨ outcome.halted = true) := by
  rw [verdict]
  cases outcome.cancelled with
  | true => exact iff_of_false RunStatus.noConfusion fun h => Bool.noConfusion h.1
  | false =>
    rw [if_neg Bool.false_ne_true]
    split
    · next unsound => exact iff_of_true rfl ⟨rfl, unsound⟩
    · next sound => exact iff_of_false RunStatus.noConfusion fun h => sound h.2

/-- A verdict is `passed` of every other run. -/
theorem verdict_eq_passed_iff :
    verdict outcome counts = .passed ↔
      outcome.cancelled = false ∧ outcome.halted = false ∧ counts.failed = 0 := by
  refine ⟨verdict_eq_passed, fun ⟨calm, goesOn, noneFailed⟩ => ?_⟩
  rw [verdict, calm, goesOn, noneFailed]
  rfl

end Engine

/-- **Where step numbers are distinct** the ledger of the events counts them one by one. -/
theorem EventGrammar.countOf_ofEvents {registry : Registry} {steps : List StepRecord}
    {blocks : List (List ProgressEvent)} {events : List ProgressEvent} {outcome : RunOutcome}
    (h : EventGrammar registry steps blocks events outcome)
    (distinct : (steps.map (·.indexStep)).Nodup) (status : StepStatus)
    (terminal : status.isTerminal = true) :
    (Ledger.ofEvents events).countOf status = events.countP (·.status = status) := by
  rw [Ledger.countOf_ofEvents terminal]
  refine tally_of_nodup terminal ?_
  rw [h.terminal_index]
  split
  · exact distinct
  · exact distinct.sublist ((List.take_sublist _ _).map _)

/-- **A summary of steps** with distinct numbers accounts for their outcome. -/
theorem accounts_of_yields {engine : Engine} {request : RunRequest} {t : Transcript}
    {outcome : RunOutcome} (h : Yields (engine.stepping request) t outcome)
    (distinct : (request.steps.map (·.indexStep)).Nodup) (started finished : Nat) :
    Accounts request outcome
      (Engine.played request started finished outcome (Ledger.ofEvents t.events)) := by
  obtain ⟨blocks, grammar⟩ := yields_eventGrammar h
  have balance : Balance outcome request.steps.length
      ((Ledger.ofEvents t.events).countOf .completed) ((Ledger.ofEvents t.events).countOf .failed)
      ((Ledger.ofEvents t.events).countOf .skipped) := by
    rw [grammar.countOf_ofEvents distinct .completed rfl,
      grammar.countOf_ofEvents distinct .failed rfl, grammar.countOf_ofEvents distinct .skipped rfl]
    exact yields_balance h
  constructor
  case dispatched => exact balance.dispatched
  case skipped => exact balance.skipped_eq
  case total => exact balance.sum_eq
  case cancelled_iff => exact Engine.verdict_eq_cancelled_iff
  case failed_iff =>
    refine Engine.verdict_eq_failed_iff.trans (and_congr_right fun _ => ?_)
    exact or_iff_left_of_imp fun halted => balance.cut (.inl halted)
  case passed_iff => exact Engine.verdict_eq_passed_iff.trans balance.completed_eq_iff.symm
  case totalSteps_eq => rfl

/-- **The summary of every session accounts for its steps**, if they were carried out and their
numbers are distinct. -/
theorem session_accounts {σ : Type} (w : World σ) (engine : Engine) (request : RunRequest) (s : σ)
    {outcome : RunOutcome} (distinct : (request.steps.map (·.indexStep)).Nodup)
    (reached : w.outcome? engine request s = some outcome) :
    Accounts request outcome (w.run (engine.session request) s).1 := by
  obtain ⟨started, ready⟩ := World.ready_of_outcome? reached
  obtain ⟨-, finished, played⟩ := World.session_of_ready ready
  have same : (w.run (engine.stepping request) (w.ledTo engine request s)).1 = outcome :=
    Option.some.inj ((World.outcome?_of_ready ready).symm.trans reached)
  rw [played, same]
  exact accounts_of_yields
    (same ▸ w.yields (engine.stepping request) (w.ledTo engine request s)) distinct started finished

/-- Three steps, of which the second has nothing to click on. -/
def nothingToClick : RunRequest where
  sessionId := "session"
  steps := [{ indexStep := 1, action := "navigate", url := some "https://example.com" },
    { indexStep := 2, action := "click" },
    { indexStep := 3, action := "navigate", url := some "https://example.com" }]

/-- The handlers with a policy to halt. -/
def Engine.halting : Engine := ⟨Registry.standard, { abortPolicy := .haltOnAbort }⟩

/-- A session that completes a step, fails one and skips one. -/
theorem accounts_of_nothingToClick :
    (nothingToClick.steps.map (·.indexStep)).Nodup ∧
      obligingPage.outcome? Engine.halting nothingToClick {} =
        some { lastIndexStep := some 2, stepsDispatched := 2, halted := true } ∧
      Accounts nothingToClick { lastIndexStep := some 2, stepsDispatched := 2, halted := true }
        (obligingPage.run (Engine.halting.session nothingToClick) {}).1 :=
  ⟨by decide, rfl,
    session_accounts obligingPage Engine.halting nothingToClick {} (by decide) rfl⟩

end Playback
