import Playback.Console.Style
import Playback.Console.Table
import Playback.Event
import Playback.Script.Report
import Playback.Wire.Event

/-!
# Reports on the console

What a run and the check of scripts write on the console.

* `Output` — **what is written**, on two streams, and whether styles are wanted;
* `progressLine`, `summaryTable` — an event, and the summary of a run;
* `Output.hear` — the observer of a run that writes everything it hears;
* `Output.reports` — the reports on checked scripts.
-/

namespace Playback

/-- **The forms of output.** -/
inductive OutputFormat where
  /-- Lines and tables for people. -/
  | plain
  /-- JSON for programs. -/
  | json
  deriving DecidableEq, Repr, Inhabited

namespace OutputFormat

/-- The name of a form. -/
def name : OutputFormat → String
  | plain => "plain"
  | json => "json"

/-- The form that a word names. -/
def ofName? (s : String) : Option OutputFormat := [plain, json].find? fun f => f.name = s

end OutputFormat

/-! ## Events and summaries -/

/-- A text filled up with blanks to a width. -/
def padRight (width : Nat) (s : String) : String :=
  s ++ String.ofList (List.replicate (width - s.length) ' ')

/-- A text with blanks in front up to a width. -/
def padLeft (width : Nat) (s : String) : String :=
  String.ofList (List.replicate (width - s.length) ' ') ++ s

/-- The sign of a phase, and its style. -/
def StepStatus.marker : StepStatus → String × Style
  | processing => ("…", .dimmed)
  | completed => ("✔", .green)
  | failed => ("✘", .red)
  | skipped => ("↷", .yellow)

/-- **The line of a progress event.** An error is on a line of its own. -/
def progressLine (styled : Bool) (e : ProgressEvent) : String :=
  let (sign, style) := e.status.marker
  "[" ++ padLeft 3 (toString e.indexStep.toNat) ++ "] " ++ style.apply styled sign ++ " " ++
    padRight 10 e.status.name ++ " " ++ e.action ++
    (if e.status.isTerminal then Style.dimmed.apply styled (" (" ++ e.time ++ " ms)") else "") ++
    (match e.error with
      | some message => "\n      " ++ Style.red.apply styled message
      | none => "")

/-- **The table of a summary.** -/
def summaryTable (s : RunSummary) : Table where
  header := ["Session", "Status", "Steps", "Completed", "Failed", "Skipped", "Last Step",
    "Duration"]
  rows := [[s.sessionId, s.status.name, toString s.totalSteps, toString s.completed,
    toString s.failed, toString s.skipped,
    match s.lastIndexStep with
      | some i => toString i.toNat
      | none => "-",
    toString s.durationMs ++ " ms"]]

/-! ## Streams -/

/-- **What is written** on the two streams. -/
structure Output where
  stdout : String := ""
  stderr : String := ""
  deriving Inhabited

namespace Output

/-- Writes a line. -/
def print (o : Output) (line : String) : Output := { o with stdout := o.stdout ++ line ++ "\n" }

/-- Writes a line about a success. -/
def success (o : Output) (message : String) : Output := o.print ("✅ " ++ message)

/-- Writes a line about a failure, on the other stream. -/
def failure (o : Output) (message : String) : Output :=
  { o with stderr := o.stderr ++ "❌ " ++ message ++ "\n" }

/-- Writes why the program gives up. -/
def complain (o : Output) (message : String) : Output :=
  { o with stderr := o.stderr ++ "Error: " ++ message ++ "\n" }

/-- Writes a line about something doubtful. -/
def warning (o : Output) (message : String) : Output := o.print ("⚠️  " ++ message)

/-- Writes the verdict on a run. -/
def verdict (o : Output) (s : RunSummary) : Output :=
  match s.status, s.error with
  | .passed, _ => o.success "Run passed"
  | _, some error => o.failure error
  | status, none => o.failure ("Run " ++ status.name)

/-- Writes a message for people. -/
def hearPlain (styled : Bool) (o : Output) : StreamMessage → Output
  | .session id testCase =>
    o.print ("▶ " ++ testCase.getD "ad-hoc run" ++ " (session " ++ id ++ ")")
  | .progress e => o.print (progressLine styled e)
  | .summary s => (o.print (summaryTable s).render).verdict s

/-- **Writes a message**, for people or as a line of JSON. -/
def hear (format : OutputFormat) (styled : Bool) (o : Output) (m : StreamMessage) : Output :=
  match format with
  | .plain => o.hearPlain styled m
  | .json => o.print m.encode.compact

/-- Writes the error and the issues of a report. -/
def reportDetails (o : Output) (r : ScriptReport) : Output :=
  let o := match r.error with
    | some e => o.failure (r.file ++ ": " ++ e)
    | none => o
  r.issues.foldl (fun o issue => o.warning (r.file ++ ": " ++ issue)) o

/-- The table of the reports on some scripts. -/
def reportTable (reports : List ScriptReport) : Table where
  header := ["File", "Name", "Steps", "Issues"]
  rows := reports.map fun r =>
    [r.file, r.name.getD "-", toString r.steps, toString r.issues.length]

/-- **Writes the reports on some scripts.** -/
def reports (o : Output) (format : OutputFormat) (rs : List ScriptReport) : Output :=
  match format with
  | .json => o.print (Json.arr (rs.map ScriptReport.encode)).pretty
  | .plain =>
    let o := rs.foldl reportDetails (o.print (reportTable rs).render)
    if rs.all ScriptReport.isLoadable then
      o.success (toString rs.length ++ " script(s) loaded")
    else o

end Output

end Playback
