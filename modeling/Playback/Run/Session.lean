import Playback.Run.Interpreter
import Playback.Run.Ledger
import Playback.Script.Basic

/-!
# Sessions

A session is one run from end to end: it opens a page, leads it to the start of the test, has the
steps carried out, closes the page and sums the run up. The observer hears of the session first and
of the summary last, whatever happens.

* `RunRequest` — **what to run**;
* `Routine.ledgered` — a routine that keeps a ledger of the progress it reports;
* `Engine.session` — **the routine of a session**.
-/

namespace Playback

/-- **What to run.** -/
structure RunRequest where
  /-- The name of the session. -/
  sessionId : String
  /-- The name of the test, if it has one. -/
  testCase : Option String := none
  /-- The page to begin with. -/
  startUrl : Option String := none
  /-- The steps in order. -/
  steps : List StepRecord
  /-- The test data. -/
  data : TestData := Dict.empty
  /-- No window is shown. -/
  headless : Bool := true

/-- The request to run a script. -/
def RunRequest.ofScript (sessionId : String) (script : TestScript) (data : TestData)
    (headless : Bool) : RunRequest where
  sessionId
  testCase := if script.name.isEmpty then none else some script.name
  startUrl := script.startUrl
  steps := script.steps
  data
  headless

/-- **Keeps a ledger of what a routine reports**, and hands it back with the result. The routine's
requests are left as they are. -/
def Routine.ledgered {α : Type} : Routine α → Ledger → Routine (α × Ledger)
  | .done a, l => .done (a, l)
  | .ask (.tell m) k, l => .ask (.tell m) fun x => (k x).ledgered (l.hear m)
  | .ask q k, l => .ask q fun x => (k x).ledgered l

/-- **What runs sessions**: the handlers and the configuration. -/
structure Engine where
  registry : Registry
  config : EngineConfig

namespace Engine

/-- A summary of a run that came to nothing, at some time after its start. -/
def barren (request : RunRequest) (started finished : Nat) (status : RunStatus)
    (error : Option String) : RunSummary where
  sessionId := request.sessionId
  status
  lastIndexStep := none
  totalSteps := request.steps.length
  completed := 0
  failed := 0
  skipped := 0
  durationMs := (finished - started) / Span.perMilli
  error

/-- Sums up, at this moment, a run that came to nothing. -/
def barrenNow (request : RunRequest) (started : Nat) (status : RunStatus)
    (error : Option String) : Routine RunSummary := do
  let finished ← Routine.request .clock
  return barren request started finished status error

/-- Tells the observer the summary, and hands it back. -/
def finish (summary : RunSummary) : Routine RunSummary := do
  Routine.tell (.summary summary)
  return summary

/-- Closes the page; that this fails changes nothing. -/
def closePage : Routine Unit := do
  let _ ← Routine.request (.shielded .close)
  return ()

/-- **The verdict** on a run of steps. -/
def verdict (outcome : RunOutcome) (counts : StatusCounts) : RunStatus :=
  if outcome.cancelled then .cancelled
  else if 0 < counts.failed ∨ outcome.halted then .failed
  else .passed

/-- Has the steps carried out on an open page, closes it and sums the run up. -/
def play (engine : Engine) (request : RunRequest) (started : Nat) : Routine RunSummary := do
  let ctx : StepContext := ⟨engine.config, request.data⟩
  -- the counts come from what was reported, not from what the handlers returned
  let (outcome, ledger) ← (interpret engine.registry ctx request.steps).ledgered {}
  closePage
  let counts := ledger.counts
  let summary ← barrenNow request started (verdict outcome counts) none
  finish { summary with
    lastIndexStep := outcome.lastIndexStep
    completed := counts.completed
    failed := counts.failed
    skipped := counts.skipped }

/-- Gives up an open page. -/
def abandon (request : RunRequest) (started : Nat) (status : RunStatus)
    (error : Option String) : Routine RunSummary := do
  let summary ← barrenNow request started status error
  closePage
  finish summary

/-- Leads an open page to the start of the test, and goes on from there. -/
def playFromStart (engine : Engine) (request : RunRequest) (started : Nat) :
    Routine RunSummary :=
  match request.startUrl with
  | none => engine.play request started
  | some url => do
    let timeout := Span.ofMillis engine.config.timeouts.navigationMs
    match ← Routine.request (.guarded (.goto url timeout)) with
    | .answered (.ok _) => engine.play request started
    | .answered (.error e) =>
      abandon request started .error (some ("Could not open " ++ url ++ ": " ++ e.message))
    | .refused => abandon request started .cancelled none
    | .interrupted => abandon request started .cancelled none

/-- **A session.** -/
def session (engine : Engine) (request : RunRequest) : Routine RunSummary := do
  let started ← Routine.request .clock
  Routine.tell (.session request.sessionId request.testCase)
  let options := engine.config.browser.options request.headless
  match ← Routine.request (.guarded (.openPage options)) with
  | .answered (.ok _) => engine.playFromStart request started
  | .answered (.error e) => do
    let summary ← barrenNow request started .error (some e.message)
    finish summary
  | .refused => do
    let summary ← barrenNow request started .cancelled none
    finish summary
  | .interrupted => do
    let summary ← barrenNow request started .cancelled none
    finish summary

end Engine

end Playback
