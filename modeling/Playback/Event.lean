import Playback.Span
import Playback.Step.Record

/-!
# Events of a run

* `ProgressEvent` — **one report on one step**: it is being processed, or how it ended;
* `RunOutcome` — what the interpreter of a step list hands back;
* `RunSummary` — the verdict of a whole run;
* `StreamMessage` — what an observer hears: the session, its progress, the summary.

Every status but `processing` is terminal.
-/

namespace Playback

/-- **The phase of a step.** -/
inductive StepStatus where
  | processing
  | completed
  | failed
  | skipped
  deriving DecidableEq, Repr, Inhabited

namespace StepStatus

/-- The name of a status, on the wire and on the console. -/
def name : StepStatus → String
  | processing => "processing"
  | completed => "completed"
  | failed => "failed"
  | skipped => "skipped"

/-- A terminal status says how a step ended. -/
def isTerminal : StepStatus → Bool
  | processing => false
  | _ => true

end StepStatus

/-- **A report on a step.** -/
structure ProgressEvent where
  /-- The recorder's number of the step. -/
  indexStep : UInt32
  /-- What is or was done. -/
  action : String
  /-- The phase reported. -/
  status : StepStatus
  /-- Milliseconds since the step began, as text. -/
  time : String
  /-- A picture of the page. -/
  screenshot : Option String := none
  /-- Why the step failed. -/
  error : Option String := none
  /-- Details of a completed step. -/
  metadata : Option Json := none
  deriving Inhabited, Repr

namespace ProgressEvent

/-- A report without details, at the beginning of its step. -/
def ofStatus (indexStep : UInt32) (action : String) (status : StepStatus) : ProgressEvent :=
  { indexStep, action, status, time := Span.milliseconds 0 }

/-- The step is being processed. -/
def processing (indexStep : UInt32) (action : String) : ProgressEvent :=
  ofStatus indexStep action .processing

/-- The step was never dispatched. -/
def skipped (indexStep : UInt32) (action : String) : ProgressEvent :=
  ofStatus indexStep action .skipped

/-- The step was completed after a time. -/
def completed (indexStep : UInt32) (action : String) (elapsed : Nat) : ProgressEvent :=
  { ofStatus indexStep action .completed with time := Span.milliseconds elapsed }

/-- The step failed after a time. -/
def failed (indexStep : UInt32) (action error : String) (elapsed : Nat) : ProgressEvent :=
  { ofStatus indexStep action .failed with
    time := Span.milliseconds elapsed, error := some error }

/-- The time of a report as a number, if its text is one. -/
def elapsedMs? (e : ProgressEvent) : Option Binary64 := Binary64.ofText? e.time.toList

end ProgressEvent

/-- **What the interpreter hands back.** -/
structure RunOutcome where
  /-- The number of the last step dispatched. -/
  lastIndexStep : Option UInt32 := none
  /-- How many steps were dispatched. -/
  stepsDispatched : Nat := 0
  /-- The abort policy ended the run early. -/
  halted : Bool := false
  /-- The run was cancelled. -/
  cancelled : Bool := false
  deriving DecidableEq, Repr, Inhabited

/-- **The verdict of a run.** -/
inductive RunStatus where
  | passed
  | failed
  | cancelled
  | error
  deriving DecidableEq, Repr, Inhabited

/-- The name of a verdict, on the wire and on the console. -/
def RunStatus.name : RunStatus → String
  | passed => "passed"
  | failed => "failed"
  | cancelled => "cancelled"
  | error => "error"

/-- **The summary of a run.** -/
structure RunSummary where
  /-- The session that ran. -/
  sessionId : String
  /-- The verdict. -/
  status : RunStatus
  /-- The number of the last step dispatched. -/
  lastIndexStep : Option UInt32
  /-- The length of the step list. -/
  totalSteps : Nat
  /-- Step numbers that ended completed. -/
  completed : Nat
  /-- Step numbers that ended failed. -/
  failed : Nat
  /-- Step numbers that were skipped. -/
  skipped : Nat
  /-- Whole milliseconds from the start of the run to its summary. -/
  durationMs : Nat
  /-- Why there was no run to speak of. -/
  error : Option String := none
  deriving DecidableEq, Repr, Inhabited

/-- **What an observer of a run hears.** -/
inductive StreamMessage where
  | session (sessionId : String) (testCase : Option String)
  | progress (event : ProgressEvent)
  | summary (summary : RunSummary)
  deriving Inhabited, Repr

/-- The name of a message's kind. -/
def StreamMessage.name : StreamMessage → String
  | session .. => "session"
  | progress _ => "progress"
  | summary _ => "summary"

end Playback
