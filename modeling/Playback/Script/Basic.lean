import Playback.Placeholder

/-!
# Test scripts

* `TestScript` — **a recorded test**: its steps, the page it starts from, and named sets of test
  data;
* `TestScript.resolveData` — the test data of one run;
* `TestScript.lint` — what the engine would report of a script at run time.
-/

namespace Playback

/-- **A recorded test.** -/
structure TestScript where
  /-- The name, possibly empty. -/
  name : String := ""
  /-- What the test is about. -/
  description : String := ""
  /-- The page opened before the first step. -/
  startUrl : Option String := none
  /-- The steps in order. -/
  steps : List StepRecord
  /-- Named sets of test data. -/
  dataScenarios : Dict TestData := Dict.empty
  deriving Inhabited

namespace TestScript

/-- The test data of a run, `none` if a scenario is asked for that the script does not have. The
overrides win over the scenario. -/
def resolveData? (script : TestScript) (scenario : Option String) (overrides : TestData) :
    Option TestData :=
  match scenario with
  | none => some (Dict.empty.overlay overrides)
  | some name => (script.dataScenarios.get? name).map fun data => data.overlay overrides

/-! ## Lint -/

/-- **What is wrong with a script.** -/
inductive Issue where
  | unrecognizedAction (indexStep : UInt32) (action : String)
  | unknownSelector (indexStep : UInt32) (type : String)
  | unsuppliedPlaceholder (indexStep : UInt32) (name : String)
  | decreasingIndex (indexStep before : UInt32)
  deriving DecidableEq, Repr

/-- The text of an issue. -/
def Issue.message : Issue → String
  | unrecognizedAction i action => "step " ++ toString i.toNat ++ ": " ++ Action.unrecognized action
  | unknownSelector i type =>
    "step " ++ toString i.toNat ++ ": " ++ SelectorKind.unknown type ++ " will be skipped"
  | unsuppliedPlaceholder i name =>
    "step " ++ toString i.toNat ++ ": placeholder <" ++ name ++
      "> is not supplied by any data scenario"
  | decreasingIndex i before =>
    "step " ++ toString i.toNat ++ " follows step " ++ toString before.toNat ++
      ": indexStep decreases"

/-- Whether some scenario has a value for a name. -/
def supplies (script : TestScript) (name : String) : Bool :=
  script.dataScenarios.values.any fun data => data.contains name

/-- The issues of one step. -/
def stepIssues (script : TestScript) (step : StepRecord) : List Issue :=
  (if step.action?.isNone then [.unrecognizedAction step.indexStep step.action] else []) ++
  ((step.selectors.filter fun s => s.kind?.isNone).map fun s =>
    .unknownSelector step.indexStep s.type) ++
  (if script.dataScenarios.isEmpty then []
    else (step.placeholders.filter fun name => !script.supplies name).map fun name =>
      .unsuppliedPlaceholder step.indexStep name)

/-- The places where a step's number is smaller than that of the step before. -/
def orderIssues : List StepRecord → List Issue
  | a :: b :: rest =>
    (if b.indexStep < a.indexStep then [.decreasingIndex b.indexStep a.indexStep] else []) ++
      orderIssues (b :: rest)
  | _ => []

/-- **The issues of a script**: those of its steps, then those of their order. -/
def lint (script : TestScript) : List Issue :=
  script.steps.flatMap script.stepIssues ++ orderIssues script.steps

end TestScript

end Playback
