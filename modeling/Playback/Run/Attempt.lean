import Playback.Config.Basic
import Playback.Run.Routine
import Playback.Text.Base64

/-!
# Attempts

A step is carried out by a routine that may fail on the way.

* `StepError` — **why a step breaks off**: it is invalid, the page fails, or the run is cancelled;
* `Attempt` — a routine that may break off;
* `Attempt.guard` — a call that cancellation keeps from being made or from being waited for;
* `Attempt.settle` — lets the page settle; that it does not is no reason to break off.
-/

namespace Playback

/-- **Why a step breaks off.** -/
inductive StepError where
  | invalidStep (index : UInt32) (reason : String)
  | page (fault : PageFault)
  | cancelled
  deriving DecidableEq, Repr

/-- What is said of a run that was cancelled. -/
def runCancelled : String := "Run cancelled"

/-- The text of a step error. -/
def StepError.message : StepError → String
  | invalidStep i reason => "Invalid step " ++ toString i.toNat ++ ": " ++ reason
  | page fault => fault.message
  | cancelled => runCancelled

/-- **A routine that may break off.** -/
abbrev Attempt (α : Type) := ExceptT StepError Routine α

/-- The picture of a page in an event: its bytes in base 64, none if it could not be taken. -/
def Routine.screenshot : Routine (Option String) := do
  match ← request (.shielded .screenshot) with
  | .ok png => return some (Text.encodeBase64 png)
  | .error _ => return none

namespace Attempt

/-- The clock of the run. -/
def clock : Attempt Nat := ExceptT.lift (Routine.request .clock)

/-- Reports on a step. -/
def emit (e : ProgressEvent) : Attempt Unit := ExceptT.lift (Routine.emit e)

/-- A picture of the page. -/
def screenshot : Attempt (Option String) := ExceptT.lift Routine.screenshot

/-- **A guarded call.** Without an answer the attempt is cancelled. -/
def guard (c : Call) : Attempt c.Answer := do
  match ← ExceptT.lift (Routine.request (.guarded c)) with
  | .answered a => return a
  | .refused => throw .cancelled
  | .interrupted => throw .cancelled

/-- Breaks off at a fault of the page. -/
def orFault {α : Type} : Except PageFault α → Attempt α
  | .ok a => return a
  | .error e => throw (.page e)

/-- Waits for each of some phases of the page. A phase that is not reached is passed over. -/
def settleThrough (timeout : Nat) : List LoadState → Attempt Unit
  | [] => return ()
  | state :: states => do
    let _ ← guard (.loadState state timeout)
    settleThrough timeout states

/-- **Lets the page settle.** -/
def settle (config : EngineConfig) : Attempt Unit :=
  settleThrough (Span.ofMillis config.timeouts.loadStateMs) LoadState.settleOrder

end Attempt

end Playback
