import Playback.Placeholder
import Playback.Run.Handler.Registry

/-!
# The interpreter

Walks a list of steps and carries each out with its handler. Every dispatched step ends with exactly
one terminal event: that of its handler, or, where the handler is missing or breaks off, that of the
interpreter.

* `dispatch` — **carries one step out**;
* `interpret` — **carries a list of steps out**, until it ends, the run is cancelled, or a step
  aborts the test and the policy is to halt. After a halt the remaining steps are reported as
  skipped.
-/

namespace Playback

/-- **How a dispatched step leaves the run.** -/
inductive Dispatched where
  | cancelled
  /-- The step ended; `halt` if the rest of the test should not be run. -/
  | ended (halt : Bool)
  deriving DecidableEq, Repr

/-- What is said of an action without a handler. -/
def noHandler (action : String) : String := "Unrecognized action '" ++ action ++ "'"

/-- Reports that a step failed, for the interpreter. -/
def reportFailure (step : StepRecord) (started : Nat) (error : String)
    (picture : Option String) : Routine Unit := do
  let finished ← Routine.request .clock
  Routine.emit { ProgressEvent.failed step.indexStep step.label error (finished - started) with
    screenshot := picture }

/-- What follows the end of a handler. -/
def conclude (step : StepRecord) (started : Nat) :
    Except StepError ActionOutcome → Routine Dispatched
  | .ok outcome => return .ended outcome.shouldHalt
  | .error .cancelled => do
    -- the step was announced, so it ends with an event even now; no picture is taken any more
    reportFailure step started runCancelled none
    return .cancelled
  | .error e => do
    let picture ← Routine.screenshot
    reportFailure step started e.message picture
    return .ended true

/-- **Carries one step out.** The handler is given the step with its placeholders replaced; events
of the interpreter bear the step's own label. -/
def dispatch (registry : Registry) (ctx : StepContext) (step : StepRecord) :
    Routine Dispatched := do
  let started ← Routine.request .clock
  match registry.handler? step with
  | none => do
    -- an unknown action fails alone and never aborts the test
    reportFailure step started (noHandler step.action) none
    return .ended false
  | some handler => do
    let result ← (handler ctx (step.substitute ctx.data)).run
    conclude step started result

/-- Reports steps as skipped. -/
def skipSteps : List StepRecord → Routine Unit
  | [] => return ()
  | step :: rest => do
    Routine.emit (.skipped step.indexStep step.label)
    skipSteps rest

/-- Carries the remaining steps of a list out, with what has come of the run so far. -/
def interpretFrom (registry : Registry) (ctx : StepContext) :
    List StepRecord → RunOutcome → Routine RunOutcome
  | [], outcome => return outcome
  | step :: rest, outcome => do
    if ← Routine.request .check then
      return { outcome with cancelled := true }
    else
      let outcome := { outcome with
        lastIndexStep := some step.indexStep
        stepsDispatched := outcome.stepsDispatched + 1 }
      match ← dispatch registry ctx step with
      | .cancelled => return { outcome with cancelled := true }
      | .ended halt =>
        if halt && ctx.config.abortPolicy = .haltOnAbort then
          skipSteps rest
          return { outcome with halted := true }
        else interpretFrom registry ctx rest outcome

/-- **Carries a list of steps out.** -/
def interpret (registry : Registry) (ctx : StepContext) (steps : List StepRecord) :
    Routine RunOutcome :=
  interpretFrom registry ctx steps {}

end Playback
