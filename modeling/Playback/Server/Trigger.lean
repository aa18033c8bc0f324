import Playback.Server.Request
import Playback.Wire.Step

/-!
# What a run is triggered with

The body of a request to run a test: whether to show a window, test data, and a scenario.
-/

namespace Playback.Server

/-- **What a run is triggered with.** -/
structure RunTrigger where
  /-- No window is shown; if it is not said, the configuration decides. -/
  isHeadless : Option Bool := none
  /-- Test data over the scenario. -/
  testData : TestData := Dict.empty
  /-- The scenario whose data is used. -/
  dataScenario : Option String := none

namespace RunTrigger

/-- The fields of a trigger. -/
def fields : List Wire.Field := [
  Wire.field "isHeadless" (Wire.optional Wire.boolean),
  Wire.field "testData" (Wire.dictOf Wire.text),
  Wire.field "dataScenario" (Wire.optional Wire.text)]

/-- **Reads a trigger.** -/
def decode (origin : Origin) (d : Document) : Wire.Result RunTrigger := do
  let s ← Wire.slots origin fields d
  return {
    isHeadless := ← s.optional 0 Wire.boolean
    testData := ← s.defaulted 1 (Wire.dictOf Wire.text) Dict.empty
    dataScenario := ← s.optional 2 Wire.text }

/-- Reads a trigger at the beginning of a body. -/
def ofBody (body : String) : Wire.Result RunTrigger := decode .text (Json.read body).1

end RunTrigger

end Playback.Server
