import Playback.Proofs.Handler.Report
import Playback.Run.Interpreter

/-!
# The course of a run through steps

What carrying a list of steps out can look like, said once for all statements about it.

* `DispatchCourse` — **the transcripts of one dispatched step**: its handler is missing, hands an
  outcome back, is cancelled or breaks off;
* `Leg`, `Ending` — one dispatched step of a run, and how the run comes to its end;
* `Course` — **the legs of a run through steps**, up to its ending;
* `yields_interpret` — the transcript and the outcome of a run are those of a course.
-/

namespace Playback

open Routine

/-! ## One step -/

/-- Replacing placeholders keeps the number of a step. -/
@[simp] theorem StepRecord.substitute_indexStep (step : StepRecord) (data : TestData) :
    (step.substitute data).indexStep = step.indexStep := by
  rw [substitute]
  split <;> rfl

/-- A handler is that of the step's action, which is known and registered. -/
theorem Registry.handler?_eq_some {registry : Registry} {step : StepRecord} {handler : Handler}
    (h : registry.handler? step = some handler) :
    ∃ a, step.action? = some a ∧ registry.has a = true ∧ handler = a.handler := by
  rw [handler?, Option.map_eq_some_iff] at h
  obtain ⟨a, ha, rfl⟩ := h
  rw [Option.filter_eq_some_iff] at ha
  exact ⟨a, ha.1, ha.2, rfl⟩

/-- Without a handler the step's action is unknown or not registered. -/
theorem Registry.handler?_eq_none {registry : Registry} {step : StepRecord}
    (h : registry.handler? step = none) (a : Action) (ha : step.action? = some a) :
    registry.has a = false := by
  rw [handler?, Option.map_eq_none_iff, ha, Option.filter_eq_none_iff] at h
  simpa using h a rfl

/-- The interpreter's report that a step failed. -/
def StepRecord.failureReport (step : StepRecord) (error : String) (elapsed : Nat)
    (picture : Option String) : ProgressEvent :=
  { ProgressEvent.failed step.indexStep step.label error elapsed with screenshot := picture }

/-- A report of progress, put and answered. -/
def Answered.report (e : ProgressEvent) : Answered := ⟨.tell (.progress e), ()⟩

/-- **The transcripts of a dispatched step.** -/
inductive DispatchCourse (registry : Registry) (ctx : StepContext) (step : StepRecord) :
    Transcript → Dispatched → Prop where
  /-- The action is unknown or has no handler. -/
  | unhandled {started finished : Nat} (missing : registry.handler? step = none) :
      DispatchCourse registry ctx step
        [⟨.clock, started⟩, ⟨.clock, finished⟩, .report (step.failureReport
          (noHandler step.action) (finished - started) none)]
        (.ended false)
  /-- The handler hands an outcome back. -/
  | returned {handler : Handler} {started : Nat} {t : Transcript} {outcome : ActionOutcome}
      (found : registry.handler? step = some handler)
      (yields : Yields (handler ctx (step.substitute ctx.data)).run t (.ok outcome)) :
      DispatchCourse registry ctx step (⟨.clock, started⟩ :: t) (.ended outcome.shouldHalt)
  /-- The handler is cancelled. -/
  | cancelled {handler : Handler} {started finished : Nat} {t : Transcript}
      (found : registry.handler? step = some handler)
      (yields : Yields (handler ctx (step.substitute ctx.data)).run t (.error .cancelled)) :
      DispatchCourse registry ctx step
        (⟨.clock, started⟩ :: t ++ [⟨.clock, finished⟩,
          .report (step.failureReport runCancelled (finished - started) none)])
        .cancelled
  /-- The handler breaks off for another reason. -/
  | broken {handler : Handler} {started finished : Nat} {t : Transcript} {e : StepError}
      {shot : Except PageFault (List UInt8)} {picture : Option String}
      (found : registry.handler? step = some handler) (fault : e ≠ .cancelled)
      (yields : Yields (handler ctx (step.substitute ctx.data)).run t (.error e)) :
      DispatchCourse registry ctx step
        (⟨.clock, started⟩ :: t ++ [⟨.shielded .screenshot, shot⟩, ⟨.clock, finished⟩,
          .report (step.failureReport e.message (finished - started) picture)])
        (.ended true)

/-- The interpreter reports a failure after reading the clock. -/
theorem yields_reportFailure {step : StepRecord} {started : Nat} {error : String}
    {picture : Option String} {t : Transcript} {a : Unit}
    (h : Yields (reportFailure step started error picture) t a) :
    ∃ finished : Nat, t = [⟨.clock, finished⟩,
      .report (step.failureReport error (finished - started) picture)] := by
  rw [reportFailure, yields_request_bind] at h
  obtain ⟨finished, u, rfl, hu⟩ := h
  exact ⟨finished, by rw [yields_request.1 hu]; rfl⟩

/-- **A dispatched step goes as its handler ends.** -/
theorem yields_dispatch {registry : Registry} {ctx : StepContext} {step : StepRecord}
    {t : Transcript} {d : Dispatched} (h : Yields (dispatch registry ctx step) t d) :
    DispatchCourse registry ctx step t d := by
  rw [dispatch, yields_request_bind] at h
  obtain ⟨started, u, rfl, hu⟩ := h
  cases hh : registry.handler? step with
  | none =>
    simp only [hh] at hu
    obtain ⟨t₁, _, t₂, rfl, h₁, h₂⟩ := yields_bind.1 hu
    obtain ⟨finished, rfl⟩ := yields_reportFailure h₁
    obtain ⟨rfl, rfl⟩ := yields_pure.1 h₂
    exact .unhandled hh
  | some handler =>
    simp only [hh] at hu
    obtain ⟨t₁, result, t₂, rfl, h₁, h₂⟩ := yields_bind.1 hu
    cases result with
    | ok outcome =>
      obtain ⟨rfl, rfl⟩ := yields_pure.1 h₂
      rw [List.append_nil]
      exact .returned hh h₁
    | error e =>
      by_cases he : e = .cancelled
      · subst he
        obtain ⟨t₃, _, t₄, rfl, h₃, h₄⟩ := yields_bind.1 h₂
        obtain ⟨finished, rfl⟩ := yields_reportFailure h₃
        obtain ⟨rfl, rfl⟩ := yields_pure.1 h₄
        exact .cancelled hh h₁
      · have sequence : conclude step started (.error e) = (do
            let picture ← Routine.screenshot
            reportFailure step started e.message picture
            return .ended true) := by
          cases e with
          | cancelled => exact absurd rfl he
          | invalidStep index reason => rfl
          | page fault => rfl
        rw [sequence] at h₂
        obtain ⟨t₃, picture, t₄, rfl, h₃, h₄⟩ := yields_bind.1 h₂
        obtain ⟨shot, rfl, -⟩ := yields_screenshot h₃
        obtain ⟨t₅, _, t₆, rfl, h₅, h₆⟩ := yields_bind.1 h₄
        obtain ⟨finished, rfl⟩ := yields_reportFailure h₅
        obtain ⟨rfl, rfl⟩ := yields_pure.1 h₆
        exact .broken hh he h₁

/-! ## A list of steps -/

/-- **One dispatched step of a run.** -/
structure Leg where
  /-- The step. -/
  step : StepRecord
  /-- The transcript of its dispatch. -/
  transcript : Transcript
  /-- How the step left the run. -/
  ended : Dispatched

/-- The transcript of a leg, from the look at the token before the step. -/
def Leg.full (l : Leg) : Transcript := ⟨.check, false⟩ :: l.transcript

/-- **How a run through steps comes to its end.** -/
inductive Ending where
  /-- All steps were dispatched. -/
  | finished
  /-- The run was found cancelled before a step. -/
  | refused
  /-- The last step dispatched was cancelled. -/
  | interrupted
  /-- The last step dispatched aborted the test, and the policy is to halt. -/
  | halted
  deriving DecidableEq

namespace Ending

/-- What a run puts after its legs, with the steps that were not dispatched. -/
def tail (rest : List StepRecord) : Ending → Transcript
  | finished => []
  | refused => [⟨.check, true⟩]
  | interrupted => []
  | halted => rest.map fun step => .report (.skipped step.indexStep step.label)

/-- The outcome of a run after its legs. -/
def conclude (outcome : RunOutcome) : Ending → RunOutcome
  | finished => outcome
  | refused => { outcome with cancelled := true }
  | interrupted => { outcome with cancelled := true }
  | halted => { outcome with halted := true }

end Ending

/-- The outcome of a run one leg further on. -/
def RunOutcome.advance (outcome : RunOutcome) (l : Leg) : RunOutcome :=
  { outcome with
    lastIndexStep := some l.step.indexStep
    stepsDispatched := outcome.stepsDispatched + 1 }

/-- **The legs of a run through steps**, up to its ending. -/
inductive Course (registry : Registry) (ctx : StepContext) :
    List StepRecord → List Leg → Ending → Prop where
  | finished : Course registry ctx [] [] .finished
  | refused {step : StepRecord} {rest : List StepRecord} :
      Course registry ctx (step :: rest) [] .refused
  | interrupted {step : StepRecord} {rest : List StepRecord} {t : Transcript}
      (dispatched : DispatchCourse registry ctx step t .cancelled) :
      Course registry ctx (step :: rest) [⟨step, t, .cancelled⟩] .interrupted
  | halted {step : StepRecord} {rest : List StepRecord} {t : Transcript}
      (dispatched : DispatchCourse registry ctx step t (.ended true))
      (policy : ctx.config.abortPolicy = .haltOnAbort) :
      Course registry ctx (step :: rest) [⟨step, t, .ended true⟩] .halted
  | next {step : StepRecord} {rest : List StepRecord} {t : Transcript} {halt : Bool}
      {legs : List Leg} {ending : Ending}
      (dispatched : DispatchCourse registry ctx step t (.ended halt))
      (policy : ¬ (halt = true ∧ ctx.config.abortPolicy = .haltOnAbort))
      (following : Course registry ctx rest legs ending) :
      Course registry ctx (step :: rest) (⟨step, t, .ended halt⟩ :: legs) ending

/-- Skipped steps are reported one after the other. -/
theorem yields_skipSteps {rest : List StepRecord} {t : Transcript} {a : Unit}
    (h : Yields (skipSteps rest) t a) : t = Ending.halted.tail rest := by
  induction rest generalizing t with
  | nil => exact (yields_pure.1 h).1
  | cons step rest ih =>
    obtain ⟨t₁, _, t₂, rfl, h₁, h₂⟩ := yields_bind.1 h
    rw [yields_request.1 h₁, ih h₂]
    rfl

/-- **The rest of a run through steps is a course**: its transcript and its outcome are read off the
legs and the ending. -/
theorem yields_interpretFrom {registry : Registry} {ctx : StepContext} {steps : List StepRecord}
    {before after : RunOutcome} {t : Transcript}
    (h : Yields (interpretFrom registry ctx steps before) t after) :
    ∃ legs ending, Course registry ctx steps legs ending ∧
      t = legs.flatMap Leg.full ++ ending.tail (steps.drop legs.length) ∧
      after = ending.conclude (legs.foldl RunOutcome.advance before) := by
  induction steps generalizing before t with
  | nil =>
    obtain ⟨rfl, rfl⟩ := yields_pure.1 h
    exact ⟨[], .finished, .finished, rfl, rfl⟩
  | cons step rest ih =>
    rw [interpretFrom, yields_request_bind] at h
    obtain ⟨cancelled, u, rfl, hu⟩ := h
    cases cancelled with
    | true =>
      obtain ⟨rfl, rfl⟩ := yields_pure.1 hu
      exact ⟨[], .refused, .refused, rfl, rfl⟩
    | false =>
      rw [if_neg Bool.false_ne_true] at hu
      obtain ⟨t₁, d, t₂, rfl, h₁, h₂⟩ := yields_bind.1 hu
      have dispatched := yields_dispatch h₁
      cases d with
      | cancelled =>
        obtain ⟨rfl, rfl⟩ := yields_pure.1 h₂
        exact ⟨[⟨step, t₁, .cancelled⟩], .interrupted, .interrupted dispatched, by
          simp [Leg.full, Ending.tail], rfl⟩
      | ended halt =>
        by_cases policy : halt = true ∧ ctx.config.abortPolicy = .haltOnAbort
        · obtain ⟨rfl, policy⟩ := policy
          simp only [policy, decide_true, Bool.and_true, if_true] at h₂
          obtain ⟨t₃, _, t₄, rfl, h₃, h₄⟩ := yields_bind.1 h₂
          obtain ⟨rfl, rfl⟩ := yields_pure.1 h₄
          rw [yields_skipSteps h₃]
          exact ⟨[⟨step, t₁, .ended true⟩], .halted, .halted dispatched policy, by
            simp [Leg.full], rfl⟩
        · have goesOn : ¬ (halt && decide (ctx.config.abortPolicy = .haltOnAbort)) = true := by
            simpa using policy
          simp only [if_neg goesOn] at h₂
          obtain ⟨legs, ending, following, rfl, rfl⟩ := ih h₂
          exact ⟨⟨step, t₁, .ended halt⟩ :: legs, ending, .next dispatched policy following, by
            simp [Leg.full], rfl⟩

end Playback
