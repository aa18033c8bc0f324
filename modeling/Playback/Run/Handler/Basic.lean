import Playback.Run.Resolve

/-!
# What step handlers share

Every handler reports that its step is being processed before it does anything else. If it does not
break off, it reports exactly once more, how the step ended, and hands back the same as an
`ActionOutcome`. If it breaks off it makes no second report.

* `ActionOutcome` — **how a step ended**, and whether the rest of the test is worth running;
* `Handler` — a routine for a step;
* `Attempt.fail`, `Attempt.complete` — the two ways to end a step;
* `Attempt.located` — the element of a step, or how to end without it.
-/

namespace Playback

/-- **How a step ended.** -/
structure ActionOutcome where
  /-- The terminal phase. -/
  status : StepStatus
  /-- The rest of the test is unlikely to succeed. -/
  abortTest : Bool
  /-- Nothing on the page matched at all. -/
  fatal : Bool
  /-- Why the step failed. -/
  error : Option String
  deriving DecidableEq, Repr

namespace ActionOutcome

/-- The step was carried out. -/
def completed : ActionOutcome := ⟨.completed, false, false, none⟩

/-- The step failed, and the test should not go on. -/
def failed (error : String) : ActionOutcome := ⟨.failed, true, false, some error⟩

/-- The step failed because nothing matched. -/
def unmatched (error : String) : ActionOutcome := ⟨.failed, true, true, some error⟩

/-- Whether the rest of the test should not be run. -/
def shouldHalt (o : ActionOutcome) : Bool := o.abortTest || o.fatal

end ActionOutcome

/-- **What a step is carried out with.** -/
structure StepContext where
  /-- The configuration of the engine. -/
  config : EngineConfig
  /-- The test data of the run. -/
  data : TestData

/-- **A routine for a step.** -/
abbrev Handler := StepContext → StepRecord → Attempt ActionOutcome

namespace Attempt

/-- Reports that a step is being processed, and tells when it began. -/
def start (step : StepRecord) : Attempt Nat := do
  let started ← clock
  emit (.processing step.indexStep step.label)
  return started

/-- **Ends a step as failed**: takes a picture of the page and reports the outcome's error. -/
def fail (step : StepRecord) (action : String) (started : Nat) (outcome : ActionOutcome) :
    Attempt ActionOutcome := do
  let picture ← screenshot
  let finished ← clock
  emit { ProgressEvent.failed step.indexStep action (outcome.error.getD "") (finished - started)
    with screenshot := picture }
  return outcome

/-- **Ends a step as completed.** -/
def complete (step : StepRecord) (action : String) (started : Nat) (picture : Option String)
    (details : Option Json) : Attempt ActionOutcome := do
  let finished ← clock
  emit { ProgressEvent.completed step.indexStep action (finished - started) with
    screenshot := picture, metadata := details }
  return .completed

end Attempt

/-- The candidate and the number of attempts, as details of a completed step. -/
def Located.details (found : Located) : Json := .obj [
  ("attempts", .int found.attempts),
  ("locator", found.selector.encode)]

/-- How many candidates were tried, in the text of a failure. -/
def triedText (attempts : Nat) : String :=
  " after trying " ++ toString attempts ++ " locator(s)"

end Playback
