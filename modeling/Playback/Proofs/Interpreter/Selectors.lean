import Playback.Proofs.Interpreter.Course

/-!
# Selectors of unknown types

A selector whose type is not one of the known names is passed over wherever it stands, so a step
without such selectors is carried out in the same way.

* `Selector.isKnown`, `StepRecord.withKnownSelectors` — **the selectors of the known types**, and a
  step with these alone;
* `Attempt.resolveFrom_filter_bind` — a search among them goes the same way, but for the places at
  which it finds;
* `Action.handler_withKnownSelectors` — **no handler heeds the others**;
* `interpret_withKnownSelectors` — nor does a whole run, in any world.
-/

namespace Playback

/-! ## Selectors and steps -/

/-- **The type of a selector is one of the known names.** -/
def Selector.isKnown (s : Selector) : Bool := (SelectorKind.all.map SelectorKind.name).contains s.type

/-- The known names. -/
example : SelectorKind.all.map SelectorKind.name =
    ["id", "class", "xpath", "data-testid", "tag-attributes"] := rfl

/-- A selector is known exactly if it has a kind. -/
theorem Selector.isSome_kind? (s : Selector) : s.kind?.isSome = s.isKnown := by
  rw [kind?, SelectorKind.ofName?, isKnown, Bool.eq_iff_iff, List.find?_isSome,
    List.contains_iff_mem, List.mem_map]
  simp only [decide_eq_true_eq]

/-- A selector that is not known has no query. -/
theorem Selector.query?_eq_none {s : Selector} (unknown : s.isKnown = false) : s.query? = none := by
  have none : s.kind? = none := by
    rw [← Option.not_isSome_iff_eq_none, isSome_kind?, unknown]
    exact Bool.false_ne_true
  rw [query?, none, Option.map_none]

/-- **A step with the selectors of known types alone.** -/
def StepRecord.withKnownSelectors (step : StepRecord) : StepRecord :=
  { step with selectors := step.selectors.filter Selector.isKnown }

/-- The first selector of a kind is a known one. -/
theorem StepRecord.firstOfKind?_withKnownSelectors (step : StepRecord) (kind : SelectorKind) :
    step.withKnownSelectors.firstOfKind? kind = step.firstOfKind? kind := by
  rw [firstOfKind?, firstOfKind?, withKnownSelectors, List.find?_filter]
  refine congrArg (List.find? · step.selectors) (funext fun s => ?_)
  rw [← Selector.isSome_kind?]
  cases s.kind? <;> simp

/-- Placeholders are replaced with or without the unknown selectors. -/
theorem StepRecord.substitute_withKnownSelectors (step : StepRecord) (data : TestData) :
    step.withKnownSelectors.substitute data = (step.substitute data).withKnownSelectors := by
  rw [substitute, substitute]
  split <;> rfl

/-! ## Searches -/

/-- What follows a search does not look at the place at which it found. -/
def Resolution.PlaceFree {β : Type} (k : Resolution → Attempt β) : Prop :=
  ∀ (located : Located) (place : Nat), k (.found { located with position := place }) =
    k (.found located)

namespace Attempt

variable {β : Type} {k : Resolution → Attempt β}

/-- **A search among the known candidates** goes on like the search among all of them: the unknown
ones are neither waited for nor counted. -/
theorem resolveFrom_filter_bind (free : Resolution.PlaceFree k) (primary fallback : Nat)
    (candidates : List Selector) (place position attempts : Nat) :
    resolveFrom primary fallback (candidates.filter Selector.isKnown) place attempts >>= k =
      resolveFrom primary fallback candidates position attempts >>= k := by
  induction candidates generalizing place position attempts with
  | nil => rfl
  | cons selector rest ih =>
    by_cases known : selector.isKnown = true
    · rw [List.filter_cons_of_pos known, resolveFrom, resolveFrom]
      cases selector.query? with
      | none => exact ih _ _ _
      | some query =>
        dsimp only
        rw [bind_assoc, bind_assoc]
        refine congrArg (guard (.waitVisible query _) >>= ·) (funext fun answer => ?_)
        -- where the candidate is seen only the places differ, elsewhere the search goes on
        split
        · rw [pure_bind, pure_bind]
          exact free ⟨position, selector, query, attempts + 1⟩ place
        · exact ih _ _ _
    · have unknown : selector.isKnown = false := by simpa using known
      rw [List.filter_cons_of_neg known, resolveFrom, Selector.query?_eq_none unknown]
      exact ih _ _ _

/-- The search with configured timeouts goes on alike as well. -/
theorem resolveWithin_filter_bind (free : Resolution.PlaceFree k) (config : EngineConfig)
    (primaryMs : Nat) (candidates : List Selector) :
    resolveWithin config primaryMs (candidates.filter Selector.isKnown) >>= k =
      resolveWithin config primaryMs candidates >>= k :=
  resolveFrom_filter_bind free _ _ candidates 0 0 0

/-- After a step has been started and the page has settled, a search goes on alike. -/
theorem settled_filter_bind (step : StepRecord) (config : EngineConfig) (primaryMs : Nat)
    {k : Nat → Resolution → Attempt β} (free : ∀ started, Resolution.PlaceFree (k started)) :
    (do
      let started ← start step
      settle config
      let resolution ←
        resolveWithin config primaryMs (step.selectors.filter Selector.isKnown)
      k started resolution) =
    (do
      let started ← start step
      settle config
      let resolution ← resolveWithin config primaryMs step.selectors
      k started resolution) :=
  congrArg (start step >>= ·) (funext fun started => congrArg (settle config >>= ·) (funext fun _ =>
    resolveWithin_filter_bind (free started) config primaryMs step.selectors))

end Attempt

/-! ## Handlers and runs -/

/-- An assertion is checked without the unknown selectors as with them. -/
theorem Handler.assertion_withKnownSelectors (ctx : StepContext) (step : StepRecord) :
    assertion ctx step.withKnownSelectors = assertion ctx step := by
  refine congrArg (Attempt.start step >>= ·) (funext fun started => ?_)
  have named : step.withKnownSelectors.typeAssert = step.typeAssert := rfl
  have expected : step.withKnownSelectors.valueToAssert = step.valueToAssert := rfl
  rw [named, expected]
  dsimp only
  cases AssertKind.ofName? (step.typeAssert.getD "") with
  | none => rfl
  | some kind =>
    dsimp only
    by_cases lacking : (kind.comparesText && step.valueToAssert.isNone) = true
    · rw [if_pos lacking, if_pos lacking]
      rfl
    · rw [if_neg lacking, if_neg lacking]
      refine congrArg (Attempt.settle ctx.config >>= ·) (funext fun _ => ?_)
      exact Attempt.resolveWithin_filter_bind (fun _ _ => rfl) ctx.config _ step.selectors

/-- A passcode step looks at its first `id` selector, which is a known one. -/
theorem Handler.passcode_withKnownSelectors (ctx : StepContext) (step : StepRecord) :
    passcode ctx step.withKnownSelectors = passcode ctx step := by
  rw [passcode, passcode, step.firstOfKind?_withKnownSelectors]
  rfl

/-- **No handler heeds selectors of unknown types.** -/
theorem Action.handler_withKnownSelectors (a : Action) (ctx : StepContext) (step : StepRecord) :
    a.handler ctx step.withKnownSelectors = a.handler ctx step := by
  cases a with
  | navigate => rfl
  | wait => rfl
  | click => exact Attempt.settled_filter_bind step ctx.config _ fun _ _ _ => rfl
  | change => exact Attempt.settled_filter_bind step ctx.config _ fun _ _ _ => rfl
  | changeWithEnter => exact Attempt.settled_filter_bind step ctx.config _ fun _ _ _ => rfl
  | assert => exact Handler.assertion_withKnownSelectors ctx step
  | otp => exact Handler.passcode_withKnownSelectors ctx step

/-- What follows the end of a handler does not look at the selectors. -/
theorem conclude_withKnownSelectors (step : StepRecord) (started : Nat)
    (result : Except StepError ActionOutcome) :
    conclude step.withKnownSelectors started result = conclude step started result := by
  cases result with
  | ok outcome => rfl
  | error e => cases e <;> rfl

/-- **A step is dispatched alike** without its selectors of unknown types. -/
theorem dispatch_withKnownSelectors (registry : Registry) (ctx : StepContext) (step : StepRecord) :
    dispatch registry ctx step.withKnownSelectors = dispatch registry ctx step := by
  have sameHandler : registry.handler? step.withKnownSelectors = registry.handler? step := rfl
  rw [dispatch, dispatch, sameHandler]
  cases found : registry.handler? step with
  | none => rfl
  | some handler =>
    obtain ⟨a, -, -, rfl⟩ := Registry.handler?_eq_some found
    dsimp only
    rw [step.substitute_withKnownSelectors, a.handler_withKnownSelectors]
    simp only [conclude_withKnownSelectors]

/-- Steps are skipped alike. -/
theorem skipSteps_withKnownSelectors (steps : List StepRecord) :
    skipSteps (steps.map StepRecord.withKnownSelectors) = skipSteps steps := by
  induction steps with
  | nil => rfl
  | cons step rest ih =>
    rw [List.map_cons, skipSteps, skipSteps, ih]
    rfl

/-- **Steps are carried out alike** without their selectors of unknown types. -/
theorem interpretFrom_withKnownSelectors (registry : Registry) (ctx : StepContext)
    (steps : List StepRecord) (outcome : RunOutcome) :
    interpretFrom registry ctx (steps.map StepRecord.withKnownSelectors) outcome =
      interpretFrom registry ctx steps outcome := by
  induction steps generalizing outcome with
  | nil => rfl
  | cons step rest ih =>
    have sameIndex : step.withKnownSelectors.indexStep = step.indexStep := rfl
    rw [List.map_cons, interpretFrom, interpretFrom, dispatch_withKnownSelectors,
      skipSteps_withKnownSelectors, sameIndex]
    simp only [ih]

/-- **Selectors of unknown types are inert**: without them a run puts the same requests in the same
states of every world — the same calls with the same timeouts —, reports the same, and comes to the
same outcome. -/
theorem interpret_withKnownSelectors {σ : Type} (w : World σ) (registry : Registry)
    (ctx : StepContext) (steps : List StepRecord) (s : σ) :
    w.log (interpret registry ctx (steps.map StepRecord.withKnownSelectors)) s =
        w.log (interpret registry ctx steps) s ∧
      w.events (interpret registry ctx (steps.map StepRecord.withKnownSelectors)) s =
        w.events (interpret registry ctx steps) s ∧
      w.run (interpret registry ctx (steps.map StepRecord.withKnownSelectors)) s =
        w.run (interpret registry ctx steps) s := by
  have same : interpret registry ctx (steps.map StepRecord.withKnownSelectors) =
      interpret registry ctx steps :=
    interpretFrom_withKnownSelectors registry ctx steps {}
  rw [same]
  exact ⟨rfl, rfl, rfl⟩

end Playback
