import Playback.Script.Basic
import Playback.Wire.Step

/-!
# Scripts on the wire

A script file holds a whole script, or only the list of its steps.

* `TestScript.encode`, `TestScript.decode` — a whole script;
* `TestScript.ofDocument?` — either form.
-/

namespace Playback.TestScript

/-- **A script as an object.** -/
def encode (t : TestScript) : Json := .obj [
  ("name", .str t.name),
  ("description", .str t.description),
  ("startUrl", Json.ofOption Json.str t.startUrl),
  ("steps", .arr (t.steps.map StepRecord.encode)),
  ("dataScenarios", Json.ofDict TestData.encode t.dataScenarios)]

/-- The fields of a script. -/
def fields (origin : Origin) : List Wire.Field := [
  Wire.field "name" Wire.text,
  Wire.field "description" Wire.text,
  Wire.field "startUrl" (Wire.optional Wire.text),
  Wire.field "steps" (Wire.listOf (StepRecord.decode origin)),
  Wire.field "dataScenarios" (Wire.dictOf (TestData.decode origin))]

/-- **Reads a whole script.** -/
def decode (origin : Origin) (d : Document) : Wire.Result TestScript := do
  let s ← Wire.slots origin (fields origin) d
  return {
    name := ← s.defaulted 0 Wire.text ""
    description := ← s.defaulted 1 Wire.text ""
    startUrl := ← s.optional 2 Wire.text
    steps := ← s.required 3 (Wire.listOf (StepRecord.decode origin))
    dataScenarios := ← s.defaulted 4 (Wire.dictOf (TestData.decode origin)) Dict.empty }

/-- Reads a list of steps as a script without a name. -/
def decodeSteps (origin : Origin) (d : Document) : Wire.Result TestScript := do
  return { steps := ← Wire.listOf (StepRecord.decode origin) d }

/-- **Reads the document of a script file**: a whole script, or else a list of steps. -/
def ofDocument? (d : Document) : Option TestScript :=
  match decode .buffered d with
  | .ok t => some t
  | .error _ => (decodeSteps .buffered d).toOption

end Playback.TestScript
