import Mathlib.Data.Option.Basic
import Playback.Proofs.Interpreter.Grammar
import Playback.Proofs.Placeholder.Simultaneous
import Playback.Script.Library

/-!
# Where the values of a step come from

A run may name a scenario of its script, and it may bring overrides. A name has the value that the
overrides give it, or else the one that it has in the scenario; the other scenarios do not count.
With these values the steps of the script are filled in before their handlers get them.

* `TestScript.valueFor?`, `TestScript.Lacks` — **the value of a name in a run**, and a scenario that
  is named in vain; `resolveData_of_lacks` and `exists_resolveData` find the test data of a run so;
* `Fills`, `StepRecord.FilledWith` — **a text and a step filled in** with test data;
* `dispatchGiving`, `dispatch_eq` — a step is dispatched with a filled-in one for its handler;
* `fillsSteps_interpret` — **so is every step of a run**;
* `TestScript.Precedence`, `resolveData_precedence` — all of it together, for every script.
-/

namespace Playback

open Routine

/-! ## Test data of a run -/

namespace TestScript

/-- **The value of a name in a run**: that of the overrides, or else that of the scenario. -/
def valueFor? (script : TestScript) (scenario : Option String) (overrides : TestData)
    (name : String) : Option String :=
  (overrides.get? name).or
    (scenario.bind fun s => (script.dataScenarios.get? s).bind fun data => data.get? name)

/-- **A scenario is named that the script does not have.** -/
def Lacks (script : TestScript) (scenario : Option String) : Prop :=
  ∃ name, scenario = some name ∧ script.dataScenarios.get? name = none

variable {script : TestScript} {scenario : Option String} {overrides data : TestData}

/-- The test data of a run without a scenario are the overrides; those of a run with one are the
scenario's with the overrides on top. -/
theorem resolveData?_eq (script : TestScript) (scenario : Option String) (overrides : TestData) :
    script.resolveData? scenario overrides =
      (scenario.elim (some Dict.empty) script.dataScenarios.get?).map (·.overlay overrides) := by
  cases scenario <;> rfl

/-- **A scenario that is named in vain** is an error. -/
theorem resolveData_of_lacks {name : String} (missing : script.dataScenarios.get? name = none)
    (overrides : TestData) : script.resolveData (some name) overrides =
      .error (.unknownScenario script.name name) := by
  rw [resolveData, resolveData?_eq, Option.elim_some, missing]
  rfl

/-- **Without one there are test data**, in which each name has its value. -/
theorem exists_resolveData (found : ¬ script.Lacks scenario) (overrides : TestData) :
    ∃ data, script.resolveData scenario overrides = .ok data ∧
      ∀ name, data.get? name = script.valueFor? scenario overrides name := by
  cases scenario with
  | none => exact ⟨Dict.empty.overlay overrides, rfl, fun name => Dict.get?_overlay _ _ name⟩
  | some s =>
    cases known : script.dataScenarios.get? s with
    | none => exact absurd ⟨s, rfl, known⟩ found
    | some base =>
      refine ⟨base.overlay overrides, ?_, fun name => ?_⟩
      · rw [resolveData, resolveData?_eq, Option.elim_some, known]
        rfl
      · rw [Dict.get?_overlay, valueFor?, Option.bind_some, known, Option.bind_some]

/-- **There is no other error** than that of a scenario that is named in vain. -/
theorem exists_of_resolveData_error {e : ScriptError}
    (failed : script.resolveData scenario overrides = .error e) :
    ∃ name, scenario = some name ∧ script.dataScenarios.get? name = none ∧
      e = .unknownScenario script.name name := by
  by_cases lacks : script.Lacks scenario
  · obtain ⟨name, rfl, missing⟩ := lacks
    have known := resolveData_of_lacks missing overrides
    exact ⟨name, rfl, missing, Except.error.inj (failed.symm.trans known)⟩
  · obtain ⟨data, resolved, -⟩ := exists_resolveData lacks overrides
    exact nomatch failed.symm.trans resolved

/-- **Scenarios that are not named do not count**: with any others in their place, the script has the
same test data. -/
theorem resolveData_congr {scenarios : Dict TestData}
    (same : ∀ name, scenario = some name → scenarios.get? name = script.dataScenarios.get? name)
    (overrides : TestData) :
    { script with dataScenarios := scenarios }.resolveData scenario overrides =
      script.resolveData scenario overrides := by
  rw [resolveData, resolveData, resolveData?_eq, resolveData?_eq]
  cases scenario with
  | none => rfl
  | some name => rw [Option.elim_some, Option.elim_some, same name rfl]

end TestScript

/-! ## Filling in -/

/-- **A text filled in** with test data: all its tokens that have a value are replaced at once, and
everything else is kept. -/
def Fills (data : TestData) (text filled : String) : Prop :=
  ∃ place, StandsFor text.toList data place ∧ filled.toList = place.flatten

/-- **A step filled in** with test data. -/
structure StepRecord.FilledWith (data : TestData) (step given : StepRecord) : Prop where
  /-- The text to type, -/
  attributes : Option.Rel (fun (a b : StepAttributes) => Option.Rel (Fills data) a.value b.value)
    step.attributes given.attributes
  /-- the text to compare with, -/
  valueToAssert : Option.Rel (Fills data) step.valueToAssert given.valueToAssert
  /-- the address, -/
  url : Option.Rel (Fills data) step.url given.url
  /-- and a value that is a text are filled in. -/
  textValue : ∀ text, step.value = some (.str text) →
    ∃ filled, given.value = some (.str filled) ∧ Fills data text filled
  /-- A value of another kind is kept, and so are all other fields. -/
  value_eq : (∀ text, step.value ≠ some (.str text)) → given.value = step.value
  indexStep_eq : given.indexStep = step.indexStep
  action_eq : given.action = step.action
  selectors_eq : given.selectors = step.selectors
  typeAssert_eq : given.typeAssert = step.typeAssert
  description_eq : given.description = step.description

/-- A text is filled in by substitution. -/
theorem fills_substitute (data : TestData) (text : String) :
    Fills data text (substitute text data) := by
  refine ⟨_, standsFor_split text.toList data, ?_⟩
  rw [Piece.flatten_flatMap_stands, substitute, String.toList_ofList]

/-- What is mapped is related to what it comes from. -/
theorem rel_map {α β : Type} {r : α → β → Prop} {f : α → β} (related : ∀ a, r a (f a))
    (x : Option α) : Option.Rel r x (x.map f) := by
  cases x with
  | none => exact .none
  | some a => exact .some (related a)

/-- **A step is filled in by substitution**, with or without any data. -/
theorem StepRecord.filledWith_substitute (step : StepRecord) (data : TestData) :
    step.FilledWith data (step.substitute data) := by
  have texts : ∀ x : Option String,
      Option.Rel (Fills data) x (x.map fun text => Playback.substitute text data) :=
    rel_map (fills_substitute data)
  rw [substitute_eq]
  -- what is left are the attributes, and the value by its kind
  refine ⟨?_, texts _, texts _, fun text value => ?_, fun other => ?_, rfl, rfl, rfl, rfl, rfl⟩
  · rw [replaceTexts]
    cases step.attributes with
    | none => exact .none
    | some a => exact .some (texts a.value)
  · refine ⟨Playback.substitute text data, ?_, fills_substitute data text⟩
    rw [replaceTexts, value]
    rfl
  · rw [replaceTexts]
    cases value : step.value with
    | none => rfl
    | some v =>
      cases v with
      | str text => exact absurd value (other text)
      | _ => rfl

/-! ## Dispatched steps -/

/-- **Carries a step out with another one for its handler.** All that the interpreter itself reports
is about the step as it was recorded. -/
def dispatchGiving (registry : Registry) (ctx : StepContext) (step given : StepRecord) :
    Routine Dispatched := do
  let started ← Routine.request .clock
  match registry.handler? step with
  | none => do
    reportFailure step started (noHandler step.action) none
    return .ended false
  | some handler => do
    let result ← (handler ctx given).run
    conclude step started result

/-- **A step is dispatched with the substituted one for its handler.** -/
theorem dispatch_eq (registry : Registry) (ctx : StepContext) (step : StepRecord) :
    dispatch registry ctx step = dispatchGiving registry ctx step (step.substitute ctx.data) :=
  rfl

/-! ## Runs -/

/-- **A leg of a run gives its handler a step**: after a look at the clock, it is what the handler asks
for on that step, and what the interpreter adds. -/
def Leg.Gives (registry : Registry) (ctx : StepContext) (l : Leg) (given : StepRecord) : Prop :=
  ∀ handler, registry.handler? l.step = some handler → ∃ started t result rest,
    l.transcript = ⟨.clock, started⟩ :: t ++ rest ∧ Yields (handler ctx given).run t result

/-- **A run gives its handlers steps that are filled in**: its legs are those of the recorded steps,
of which the ones that are left over are reported as they are, and each leg gives its handler the
step of the leg filled in. -/
def FillsSteps (registry : Registry) (ctx : StepContext) (steps : List StepRecord)
    (t : Transcript) : Prop :=
  ∃ (legs : List Leg) (ending : Ending), legs.map (·.step) = steps.take legs.length ∧
    t = legs.flatMap Leg.full ++ ending.tail (steps.drop legs.length) ∧
    ∀ l ∈ legs, ∃ given, l.step.FilledWith ctx.data given ∧ l.Gives registry ctx given

section

variable {registry : Registry} {ctx : StepContext}

/-- A step with a handler is dispatched by giving the handler the substituted one. -/
theorem DispatchCourse.gives {step : StepRecord} {t : Transcript} {d : Dispatched}
    (h : DispatchCourse registry ctx step t d) :
    (⟨step, t, d⟩ : Leg).Gives registry ctx (step.substitute ctx.data) := by
  intro handler found
  cases h with
  | unhandled missing => exact nomatch missing.symm.trans found
  | returned found' yields =>
    obtain rfl := Option.some.inj (found'.symm.trans found)
    exact ⟨_, _, _, [], (List.append_nil _).symm, yields⟩
  | cancelled found' yields =>
    obtain rfl := Option.some.inj (found'.symm.trans found)
    exact ⟨_, _, _, _, rfl, yields⟩
  | broken found' fault yields =>
    obtain rfl := Option.some.inj (found'.symm.trans found)
    exact ⟨_, _, _, _, rfl, yields⟩

/-- **In every world, a run gives its handlers steps that are filled in.** -/
theorem fillsSteps_interpret {σ : Type} (w : World σ) (steps : List StepRecord) (s : σ) :
    FillsSteps registry ctx steps (w.transcript (interpret registry ctx steps) s) := by
  obtain ⟨legs, ending, course, whole, -⟩ :=
    yields_interpretFrom (w.yields (interpret registry ctx steps) s)
  refine ⟨legs, ending, course.map_step, whole, fun l mem => ?_⟩
  exact ⟨_, l.step.filledWith_substitute ctx.data, (course.dispatch_of_mem mem).gives⟩

end

/-! ## Scripts -/

/-- **The steps of a script are filled in** with test data. -/
structure TestScript.FilledWith (script : TestScript) (data : TestData) : Prop where
  /-- A step that is dispatched with them gives its handler the step filled in. -/
  dispatched : ∀ (registry : Registry) (config : EngineConfig), ∀ step ∈ script.steps, ∃ given,
    step.FilledWith data given ∧
      dispatch registry ⟨config, data⟩ step = dispatchGiving registry ⟨config, data⟩ step given
  /-- So does every step of a run with them. -/
  run : ∀ {σ : Type} (w : World σ) (registry : Registry) (config : EngineConfig) (s : σ),
    FillsSteps registry ⟨config, data⟩ script.steps
      (w.transcript (interpret registry ⟨config, data⟩ script.steps) s)

/-- **The steps of every script are filled in**, with all test data. -/
theorem TestScript.filledWith (script : TestScript) (data : TestData) : script.FilledWith data where
  dispatched registry config step _ :=
    ⟨_, step.filledWith_substitute data, dispatch_eq registry ⟨config, data⟩ step⟩
  run w _ _ s := fillsSteps_interpret w script.steps s

/-- **Where the values of a script's steps come from**, in a run that may name a scenario and brings
overrides. -/
structure TestScript.Precedence (script : TestScript) (scenario : Option String)
    (overrides : TestData) : Prop where
  /-- There are no test data exactly if a scenario is named that the script does not have, -/
  error_iff : (∃ e, script.resolveData scenario overrides = .error e) ↔ script.Lacks scenario
  /-- and that is what the error says. -/
  error_eq : ∀ e, script.resolveData scenario overrides = .error e →
    ∃ name, scenario = some name ∧ e = .unknownScenario script.name name
  /-- Otherwise there are, each name has the value of the overrides, or else of the scenario, and
  with these values the steps are filled in. -/
  resolved : ¬ script.Lacks scenario → ∃ data, script.resolveData scenario overrides = .ok data ∧
    (∀ name, data.get? name = script.valueFor? scenario overrides name) ∧ script.FilledWith data
  /-- The scenarios that are not named do not count. -/
  others : ∀ scenarios : Dict TestData,
    (∀ name, scenario = some name → scenarios.get? name = script.dataScenarios.get? name) →
    { script with dataScenarios := scenarios }.resolveData scenario overrides =
      script.resolveData scenario overrides

/-- **The overrides come before the scenario that is named, and nothing comes after it**, for every
script and every run. -/
theorem resolveData_precedence (script : TestScript) (scenario : Option String)
    (overrides : TestData) : script.Precedence scenario overrides where
  error_iff := by
    constructor
    · rintro ⟨e, failed⟩
      obtain ⟨name, named, missing, -⟩ := TestScript.exists_of_resolveData_error failed
      exact ⟨name, named, missing⟩
    · rintro ⟨name, rfl, missing⟩
      exact ⟨_, TestScript.resolveData_of_lacks missing overrides⟩
  error_eq e failed := by
    obtain ⟨name, named, -, told⟩ := TestScript.exists_of_resolveData_error failed
    exact ⟨name, named, told⟩
  resolved found := by
    obtain ⟨data, resolved, values⟩ := TestScript.exists_resolveData found overrides
    exact ⟨data, resolved, values, script.filledWith data⟩
  others scenarios same := TestScript.resolveData_congr same overrides

end Playback
