import Playback.Event
import Playback.Wire.Decode

/-!
# Events on the wire

The JSON form of progress events, outcomes, summaries and stream messages, and decoding it. A
stream message carries the name of its kind in the field `type`; it is read as a whole before its
kind decides what it stands for.
-/

namespace Playback

namespace StepStatus

/-- The names of all statuses. -/
def members : List (String × StepStatus) :=
  [processing, completed, failed, skipped].map fun s => (s.name, s)

/-- A status as its name. -/
def encode (s : StepStatus) : Json := .str s.name

/-- Reads a status. -/
def decode (origin : Origin) : Document → Wire.Result StepStatus := Wire.choice members origin

end StepStatus

namespace RunStatus

/-- The names of all verdicts. -/
def members : List (String × RunStatus) :=
  [passed, failed, cancelled, error].map fun s => (s.name, s)

/-- A verdict as its name. -/
def encode (s : RunStatus) : Json := .str s.name

/-- Reads a verdict. -/
def decode (origin : Origin) : Document → Wire.Result RunStatus := Wire.choice members origin

end RunStatus

/-- A step number, `null` if there is none. -/
def encodeIndex (i : Option UInt32) : Json := Json.ofOption (fun i => .int i.toNat) i

namespace ProgressEvent

/-- The fields of an event that it has, in order. -/
def encodeFields (e : ProgressEvent) : List (String × Option Json) := [
  ("indexStep", some (.int e.indexStep.toNat)),
  ("action", some (.str e.action)),
  ("status", some e.status.encode),
  ("time", some (.str e.time)),
  ("screenshot", e.screenshot.map Json.str),
  ("error", e.error.map Json.str),
  ("metadata", e.metadata)]

/-- **An event as an object.** -/
def encode (e : ProgressEvent) : Json := Json.objOf e.encodeFields

/-- The fields of an event. -/
def fields (origin : Origin) : List Wire.Field := [
  Wire.field "indexStep" Wire.word32,
  Wire.field "action" Wire.text,
  Wire.field "status" (StepStatus.decode origin),
  Wire.field "time" Wire.text,
  Wire.field "screenshot" (Wire.optional Wire.text),
  Wire.field "error" (Wire.optional Wire.text),
  Wire.field "metadata" (Wire.optional Wire.json)]

/-- **Reads an event.** -/
def decode (origin : Origin) (d : Document) : Wire.Result ProgressEvent := do
  let s ← Wire.slots origin (fields origin) d
  return {
    indexStep := ← s.required 0 Wire.word32
    action := ← s.required 1 Wire.text
    status := ← s.required 2 (StepStatus.decode origin)
    time := ← s.required 3 Wire.text
    screenshot := ← s.optional 4 Wire.text
    error := ← s.optional 5 Wire.text
    metadata := ← s.optional 6 Wire.json }

end ProgressEvent

namespace RunOutcome

/-- An outcome as an object. -/
def encode (o : RunOutcome) : Json := .obj [
  ("lastIndexStep", encodeIndex o.lastIndexStep),
  ("stepsDispatched", .int o.stepsDispatched),
  ("halted", .bool o.halted),
  ("cancelled", .bool o.cancelled)]

/-- The fields of an outcome. -/
def fields : List Wire.Field := [
  Wire.field "lastIndexStep" (Wire.optional Wire.word32),
  Wire.field "stepsDispatched" Wire.word64,
  Wire.field "halted" Wire.boolean,
  Wire.field "cancelled" Wire.boolean]

/-- Reads an outcome. -/
def decode (origin : Origin) (d : Document) : Wire.Result RunOutcome := do
  let s ← Wire.slots origin fields d
  return {
    lastIndexStep := ← s.optional 0 Wire.word32
    stepsDispatched := ← s.required 1 Wire.word64
    halted := ← s.required 2 Wire.boolean
    cancelled := ← s.required 3 Wire.boolean }

end RunOutcome

namespace RunSummary

/-- The fields of a summary that it has, in order. -/
def encodeFields (r : RunSummary) : List (String × Option Json) := [
  ("sessionId", some (.str r.sessionId)),
  ("status", some r.status.encode),
  ("lastIndexStep", some (encodeIndex r.lastIndexStep)),
  ("totalSteps", some (.int r.totalSteps)),
  ("completed", some (.int r.completed)),
  ("failed", some (.int r.failed)),
  ("skipped", some (.int r.skipped)),
  ("durationMs", some (.int r.durationMs)),
  ("error", r.error.map Json.str)]

/-- **A summary as an object.** -/
def encode (r : RunSummary) : Json := Json.objOf r.encodeFields

/-- The fields of a summary. -/
def fields (origin : Origin) : List Wire.Field := [
  Wire.field "sessionId" Wire.text,
  Wire.field "status" (RunStatus.decode origin),
  Wire.field "lastIndexStep" (Wire.optional Wire.word32),
  Wire.field "totalSteps" Wire.word64,
  Wire.field "completed" Wire.word64,
  Wire.field "failed" Wire.word64,
  Wire.field "skipped" Wire.word64,
  Wire.field "durationMs" Wire.word64,
  Wire.field "error" (Wire.optional Wire.text)]

/-- **Reads a summary.** -/
def decode (origin : Origin) (d : Document) : Wire.Result RunSummary := do
  let s ← Wire.slots origin (fields origin) d
  return {
    sessionId := ← s.required 0 Wire.text
    status := ← s.required 1 (RunStatus.decode origin)
    lastIndexStep := ← s.optional 2 Wire.word32
    totalSteps := ← s.required 3 Wire.word64
    completed := ← s.required 4 Wire.word64
    failed := ← s.required 5 Wire.word64
    skipped := ← s.required 6 Wire.word64
    durationMs := ← s.required 7 Wire.word64
    error := ← s.optional 8 Wire.text }

end RunSummary

namespace StreamMessage

/-- **A message as an object**, led by the name of its kind. -/
def encode (m : StreamMessage) : Json :=
  let body := match m with
    | session id testCase =>
      [("sessionId", some (.str id)), ("testCase", testCase.map Json.str)]
    | progress e => e.encodeFields
    | summary r => r.encodeFields
  Json.objOf (("type", some (.str m.name)) :: body)

/-- The kinds of messages. -/
inductive Kind where
  | session
  | progress
  | summary

/-- The names of all kinds. -/
def kinds : List (String × Kind) :=
  [("session", .session), ("progress", .progress), ("summary", .summary)]

/-- The fields of a session message. -/
def sessionFields : List Wire.Field := [
  Wire.field "sessionId" Wire.text,
  Wire.field "testCase" (Wire.optional Wire.text)]

/-- Reads the body of a message of a kind. -/
def decodeBody (origin : Origin) (kind : Kind) (d : Document) : Wire.Result StreamMessage :=
  match kind with
  | .session => do
    let s ← Wire.slots origin sessionFields d
    return .session (← s.required 0 Wire.text) (← s.optional 1 Wire.text)
  | .progress => do return .progress (← ProgressEvent.decode origin d)
  | .summary => do return .summary (← RunSummary.decode origin d)

/-- Splits the entries of a message into its kind and the others, reading all of them. -/
def splitEntries : List (Document × Document) → Option Kind →
    Wire.Result (Option Kind × List (Document × Document))
  | [], kind => .ok (kind, [])
  | (key, value) :: entries, kind => do
    let name ← Wire.text key
    if name = "type" then
      if kind.isSome then .error .mismatch
      else
        let k ← Wire.member kinds value
        splitEntries entries (some k)
    else if value.isSound then
      let (k, rest) ← splitEntries entries kind
      return (k, (key, value) :: rest)
    else .error .malformed

/-- **Reads a message**: a mapping with its kind among the entries, or a list led by it. -/
def decode (_ : Origin) : Document → Wire.Result StreamMessage
  | .map entries => do
    let (kind, rest) ← splitEntries entries none
    match kind with
    | some k => decodeBody .buffered k (.map rest)
    | none => .error .mismatch
  | .list (tag :: rest) => do
    let k ← Wire.member kinds tag
    if Document.areSound rest then decodeBody .buffered k (.list rest) else .error .malformed
  | d => .error (Wire.refuse d)

end StreamMessage

end Playback
