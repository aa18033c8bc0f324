import Playback.Run.Handler.Basic
import Playback.Text.Blank

/-!
# Waits

Pauses for the number of milliseconds in a step's value: a positive number, or a text of one.
-/

namespace Playback

/-- **The milliseconds to wait**, `none` if the value is not a positive finite number. -/
def waitMs? : Option Json → Option Binary64
  | some value =>
    let number :=
      match value with
      | .int n => some (Binary64.ofInt n)
      | .float x => some x
      | .str s => Binary64.ofText? (Text.trimChars s.toList)
      | _ => none
    number.filter fun x => x.isFinite && x.isPositive
  | none => none

/-- What is said of a value that is no waiting time. -/
def badWait (value : Option Json) : String :=
  "wait value must be a positive number of milliseconds, got " ++
    (value.map Json.compact).getD "nothing"

/-- Pauses for a recorded number of milliseconds, if they make a span, and reports how long that
took. -/
def pauseFor (step : StepRecord) (started : Nat) (ms : Binary64) :
    Except Span.RangeError Nat → Attempt ActionOutcome
  | .error e =>
    throw (.invalidStep step.indexStep
      ("wait of " ++ ms.plain ++ " ms is out of range: " ++ e.message))
  | .ok span => do
    Attempt.guard (.pause span)
    let finished ← Attempt.clock
    let elapsed := finished - started
    Attempt.emit { ProgressEvent.completed step.indexStep ("Wait " ++ ms.plain ++ " ms") elapsed
      with metadata := some (.obj [
        ("actualMs", Json.ofFloat (Span.millis elapsed)),
        ("expectedMs", Json.ofFloat ms)]) }
    return .completed

/-- **Waits.** -/
def Handler.wait : Handler := fun _ step => do
  let started ← Attempt.start step
  match waitMs? step.value with
  | none => throw (.invalidStep step.indexStep (badWait step.value))
  | some ms => pauseFor step started ms (Span.ofSeconds? (ms.div (Binary64.ofNat 1000)))

end Playback
