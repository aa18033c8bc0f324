import Playback.Proofs.Interpreter.Course
import Playback.Proofs.Placeholder.Dependence
import Playback.Simulation.Solo

/-!
# What a run depends on in its test data

A run looks its test data up under the placeholders of its steps and under `username`, and nowhere
else: data that agree there lead to the same run.

* `Action.handler_data` — a handler looks at the user only;
* `dispatch_data`, `interpretFrom_data` — **a step, and a list of steps, are the same routine** under
  data that agree on what they name;
* `interpret_data` — so are whole runs, in every world.
-/

namespace Playback

open Routine

variable {registry : Registry} {config : EngineConfig} {data data' : TestData}

/-- The user of a passcode step is the same in data that agree on it. -/
theorem StepRecord.username?_congr (step : StepRecord)
    (user : data.get? "username" = data'.get? "username") :
    step.username? data = step.username? data' := by
  rw [username?, username?, user]

/-- **A handler looks at the user in the test data** and at nothing else there. -/
theorem Action.handler_data (a : Action) (config : EngineConfig)
    (user : data.get? "username" = data'.get? "username") (step : StepRecord) :
    a.handler ⟨config, data⟩ step = a.handler ⟨config, data'⟩ step := by
  cases a with
  | otp =>
    dsimp only [handler, Handler.passcode]
    rw [step.username?_congr user]
    rfl
  | _ => rfl

/-- **A step is dispatched alike** under data that agree on its placeholders and on the user. -/
theorem dispatch_data {step : StepRecord} (named : TestData.AgreeOn step.placeholders data data')
    (user : data.get? "username" = data'.get? "username") :
    dispatch registry ⟨config, data⟩ step = dispatch registry ⟨config, data'⟩ step := by
  rw [dispatch, dispatch]
  cases found : registry.handler? step with
  | none => rfl
  | some handler =>
    obtain ⟨a, -, -, rfl⟩ := Registry.handler?_eq_some found
    have same := a.handler_data config user (step.substitute data)
    dsimp only
    rw [same, StepRecord.substitute_congr named]

/-- **Steps are carried out alike** under data that agree on all their placeholders and on the
user. -/
theorem interpretFrom_data {steps : List StepRecord}
    (named : ∀ step ∈ steps, TestData.AgreeOn step.placeholders data data')
    (user : data.get? "username" = data'.get? "username") (outcome : RunOutcome) :
    interpretFrom registry ⟨config, data⟩ steps outcome =
      interpretFrom registry ⟨config, data'⟩ steps outcome := by
  induction steps generalizing outcome with
  | nil => rfl
  | cons step rest ih =>
    obtain ⟨first, others⟩ := List.forall_mem_cons.1 named
    rw [interpretFrom, interpretFrom, dispatch_data first user]
    simp only [ih others]

/-- **A run depends on its test data only through the names that its steps use and the user**: under
data that agree on those, it puts the same requests in the same states of every world, reports the
same, and comes to the same outcome. -/
theorem interpret_data {σ : Type} (w : World σ) (registry : Registry) (config : EngineConfig)
    (steps : List StepRecord) (data data' : TestData) (s : σ)
    (named : ∀ step ∈ steps, TestData.AgreeOn step.placeholders data data')
    (user : data.get? "username" = data'.get? "username") :
    w.log (interpret registry ⟨config, data⟩ steps) s =
        w.log (interpret registry ⟨config, data'⟩ steps) s ∧
      w.events (interpret registry ⟨config, data⟩ steps) s =
        w.events (interpret registry ⟨config, data'⟩ steps) s ∧
      w.run (interpret registry ⟨config, data⟩ steps) s =
        w.run (interpret registry ⟨config, data'⟩ steps) s := by
  have same : interpret registry ⟨config, data⟩ steps = interpret registry ⟨config, data'⟩ steps :=
    interpretFrom_data named user {}
  rw [same]
  exact ⟨rfl, rfl, rfl⟩

/-- A step that names a host and a path. -/
def visitHost : StepRecord :=
  { indexStep := 1, action := "navigate", url := some "https://<Host>/<Path>" }

/-- A page without elements. -/
def blankPage : World Simulation.Solo := Simulation.solo { epoch := ⟨0, 0⟩ }

/-- Runs with and without data that no step names: once beside a host, and once beside nothing. -/
theorem interpret_data_of_unnamed :
    let host := Dict.ofList [("Host", "example.com")]
    let unnamed := Dict.ofList [("Colour", "red")]
    ((∀ step ∈ [visitHost],
        TestData.AgreeOn step.placeholders (host.overlay unnamed) host) ∧
      (host.overlay unnamed).get? "username" = host.get? "username" ∧
      blankPage.run (interpret .standard ⟨{}, host.overlay unnamed⟩ [visitHost]) {} =
        blankPage.run (interpret .standard ⟨{}, host⟩ [visitHost]) {}) ∧
    (∀ step ∈ [visitHost], TestData.AgreeOn step.placeholders unnamed Dict.empty) ∧
      unnamed.get? "username" = (Dict.empty : TestData).get? "username" ∧
      blankPage.run (interpret .standard ⟨{}, unnamed⟩ [visitHost]) {} =
        blankPage.run (interpret .standard ⟨{}, Dict.empty⟩ [visitHost]) {} := by
  refine ⟨⟨by decide +kernel, by decide +kernel, ?_⟩, by decide +kernel, by decide +kernel, ?_⟩
  · exact (interpret_data blankPage .standard {} [visitHost] _ _ {} (by decide +kernel)
      (by decide +kernel)).2.2
  · exact (interpret_data blankPage .standard {} [visitHost] _ _ {} (by decide +kernel)
      (by decide +kernel)).2.2

end Playback
