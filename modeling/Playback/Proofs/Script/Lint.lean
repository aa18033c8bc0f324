import Mathlib.Data.List.Chain
import Playback.Proofs.Handler.Search
import Playback.Proofs.Interpreter.Grammar
import Playback.Proofs.Placeholder.Dependence
import Playback.Proofs.Placeholder.Tokens
import Playback.Script.Basic

/-!
# What the lint of a script foretells

The lint looks at a script and at nothing else. What it finds is what a run of the script meets.

* `Transcript.FailsAlone`, `DispatchCourse.handler?_eq_none_iff` — **a step that fails alone** is one
  without a handler;
* `Selector.PassedOver`, `Selector.Attempted` — **what a search does with a selector** on arriving at
  it, which depends on the type of the selector alone;
* `StepRecord.Mentions`, `TestScript.Supplies` — **the names in a step**, and those that some
  scenario has a value for;
* `TestScript.issuesOf_eq` — **the issues of a script, by what they are about**;
* `orderIssues_eq_nil_iff` — **neighbours in order are a list in order**;
* `TestScript.Foretells`, `lint_foretells` — **the lint agrees with the engine**, for every script.
-/

namespace Playback

open Routine

/-! ## Actions -/

/-- The standard registry has a handler for every action. -/
theorem Registry.has_standard (a : Action) : Registry.standard.has a = true := by
  cases a <;> decide

/-- So a step has one exactly if its action is known. -/
theorem Registry.isNone_handler?_standard (step : StepRecord) :
    (Registry.standard.handler? step).isNone = step.action?.isNone := by
  rw [handler?, Option.isNone_map]
  cases action : step.action? with
  | none => rfl
  | some a => rw [Option.filter_some_pos (Registry.has_standard a)]

/-- **A step fails alone**: all that is told is that its action is not recognized, and the page is not
called. -/
structure Transcript.FailsAlone (step : StepRecord) (t : Transcript) : Prop where
  events_eq : ∃ elapsed, t.events = [step.failureReport (noHandler step.action) elapsed none]
  calls_eq : t.calls = []

/-- **A step has no handler exactly if it fails alone**, in any world. -/
theorem DispatchCourse.handler?_eq_none_iff {registry : Registry} {ctx : StepContext}
    {step : StepRecord} {t : Transcript} {d : Dispatched}
    (h : DispatchCourse registry ctx step t d) :
    registry.handler? step = none ↔ t.FailsAlone step := by
  constructor
  · intro missing
    cases h with
    | unhandled => exact ⟨⟨_, rfl⟩, rfl⟩
    | returned found => exact nomatch missing.symm.trans found
    | cancelled found => exact nomatch missing.symm.trans found
    | broken found => exact nomatch missing.symm.trans found
  · rintro ⟨⟨elapsed, told⟩, -⟩
    -- a step with a handler tells two events
    have block := h.isBlock
    rw [told] at block
    cases block with
    | unhandled missing =>
      rw [Registry.handler?, Option.map_eq_none_iff, Option.filter_eq_none_iff]
      intro a action
      rw [missing a action]
      exact Bool.false_ne_true

/-! ## Selectors -/

namespace Selector

/-- **A search passes a selector over**: on arriving at it, it goes on behind it at once. -/
def PassedOver (c : Selector) : Prop :=
  ∀ primary fallback rest position made,
    Attempt.resolveFrom primary fallback (c :: rest) position made =
      Attempt.resolveFrom primary fallback rest (position + 1) made

/-- **A search attempts a selector**: on arriving at it, it first waits for its query, along every
transcript. -/
def Attempted (c : Selector) : Prop :=
  ∃ query, c.query? = some query ∧
    ∀ {primary fallback : Nat} {rest : List Selector} {position made : Nat} {t : Transcript}
      {r : Except StepError Resolution},
      Yields (Attempt.resolveFrom primary fallback (c :: rest) position made).run t r →
      ∃ ending after,
        t = ⟨.guarded (.waitVisible query (timeout primary fallback made)), ending⟩ :: after

/-- A selector without a kind has no query, and one with a kind has one. -/
theorem query?_eq_none_iff {c : Selector} : c.query? = none ↔ c.kind? = none := by
  rw [query?, Option.map_eq_none_iff]

/-- A selector without a query is passed over. -/
theorem passedOver_of_query {c : Selector} (unknown : c.query? = none) : c.PassedOver := by
  intro primary fallback rest position made
  rw [Attempt.resolveFrom, unknown]

/-- One with a query is attempted. -/
theorem attempted_of_query {c : Selector} {query : String} (known : c.query? = some query) :
    c.Attempted := by
  refine ⟨query, known, fun {_ _ _ _ _ _ _} yields => ?_⟩
  rw [Attempt.resolveFrom] at yields
  simp only [known] at yields
  rcases Attempt.yields_guard_bind yields with ⟨rfl | rfl, -⟩ | ⟨answer, after, rfl, -⟩
  · exact ⟨_, [], rfl⟩
  · exact ⟨_, [], rfl⟩
  · exact ⟨_, after, rfl⟩

/-- No selector is both attempted and passed over: among it alone, a search would end at once. -/
theorem Attempted.not_passedOver {c : Selector} (attempted : c.Attempted) : ¬ c.PassedOver := by
  intro passed
  obtain ⟨query, -, waits⟩ := attempted
  have ends : Yields (Attempt.resolveFrom 0 0 [c] 0 0).run [] (.ok (.notFound 0)) := by
    rw [passed]
    exact Attempt.yields_run_pure.2 ⟨rfl, rfl⟩
  obtain ⟨ending, after, same⟩ := waits ends
  exact nomatch same

/-- **A selector is passed over exactly if its type is unknown.** -/
theorem kind?_eq_none_iff_passedOver (c : Selector) : c.kind? = none ↔ c.PassedOver := by
  rw [← query?_eq_none_iff]
  refine ⟨passedOver_of_query, fun passed => ?_⟩
  cases known : c.query? with
  | none => rfl
  | some query => exact absurd passed (attempted_of_query known).not_passedOver

/-- **It is attempted exactly if it is known.** -/
theorem isSome_kind?_iff_attempted (c : Selector) : c.kind?.isSome ↔ c.Attempted := by
  constructor
  · intro isKnown
    obtain ⟨query, known⟩ : ∃ query, c.query? = some query := by
      rw [← Option.isSome_iff_exists, query?, Option.isSome_map, isKnown]
    exact attempted_of_query known
  · rintro ⟨query, known, -⟩
    rw [← Option.isSome_map, ← query?, known]
    rfl

end Selector

/-! ## Names -/

/-- **A step mentions a name**: a token with that name stands in one of its texts. -/
def StepRecord.Mentions (step : StepRecord) (name : String) : Prop :=
  ∃ text ∈ step.texts, ∃ start, IsTokenAt text.toList start name.toList

/-- **Some scenario has a value for a name.** -/
def TestScript.Supplies (script : TestScript) (name : String) : Prop :=
  ∃ scenario data, script.dataScenarios.get? scenario = some data ∧ (data.get? name).isSome

/-- **The placeholders of a step** are the names that it mentions, -/
theorem StepRecord.mem_placeholders_iff {step : StepRecord} {name : String} :
    name ∈ step.placeholders ↔ step.Mentions name := by
  rw [mem_placeholders, Mentions]
  simp only [mem_placeholders_iff_isTokenAt]

/-- What `distinct` keeps of a list has no member twice. -/
theorem nodup_distinct (names : List String) : (distinct names).Nodup := by
  induction names with
  | nil => exact .nil
  | cons first rest ih =>
    rw [distinct, List.nodup_cons]
    exact ⟨by simp, ih.filter _⟩

/-- each once. -/
theorem StepRecord.nodup_placeholders (step : StepRecord) : step.placeholders.Nodup :=
  nodup_distinct _

/-- **The look-up among the scenarios** finds the names that they supply. -/
theorem TestScript.supplies_iff {script : TestScript} {name : String} :
    script.supplies name = true ↔ script.Supplies name := by
  rw [supplies, List.any_eq_true, Supplies]
  constructor
  · rintro ⟨data, mem, supplied⟩
    obtain ⟨e, entry, rfl⟩ := List.mem_map.1 mem
    exact ⟨e.1, e.2, Dict.lookup_eq_some_of_mem script.dataScenarios.sorted entry, supplied⟩
  · rintro ⟨scenario, data, found, supplied⟩
    exact ⟨data, List.mem_map.2 ⟨_, Dict.mem_of_lookup_eq_some found, rfl⟩, supplied⟩

/-- **A script has scenarios.** -/
def TestScript.HasScenarios (script : TestScript) : Prop :=
  ∃ scenario data, script.dataScenarios.get? scenario = some data

/-- That is what the lint asks the dictionary. -/
theorem TestScript.isEmpty_dataScenarios {script : TestScript} :
    script.dataScenarios.isEmpty = true ↔ ¬ script.HasScenarios := by
  rw [Dict.isEmpty, List.isEmpty_iff]
  constructor
  · rintro none ⟨scenario, data, found⟩
    exact absurd (none ▸ Dict.mem_of_lookup_eq_some found) List.not_mem_nil
  · intro without
    refine List.eq_nil_iff_forall_not_mem.2 fun entry mem => without ?_
    exact ⟨_, _, Dict.lookup_eq_some_of_mem script.dataScenarios.sorted mem⟩

/-! ## Issues -/

namespace TestScript

/-- **What an issue is about.** -/
inductive Concern where
  | action
  | selector
  | placeholder
  | order
  deriving DecidableEq

/-- What an issue is about. -/
def Issue.concern : Issue → Concern
  | unrecognizedAction _ _ => .action
  | unknownSelector _ _ => .selector
  | unsuppliedPlaceholder _ _ => .placeholder
  | decreasingIndex _ _ => .order

/-- **The issues of a script that are about one thing.** -/
def issuesOf (script : TestScript) (concern : Concern) : List Issue :=
  script.lint.filter fun issue => issue.concern = concern

/-- Issues that are all about one thing are kept or dropped together. -/
theorem filter_concern {issues : List Issue} {c : Concern}
    (about : ∀ issue ∈ issues, issue.concern = c) (c' : Concern) :
    (issues.filter fun issue => issue.concern = c') = if c = c' then issues else [] := by
  split
  · next same => exact List.filter_eq_self.2 fun issue mem => by simp [about issue mem, same]
  · next other => exact List.filter_eq_nil_iff.2 fun issue mem => by simp [about issue mem, other]

/-- The issue about a step's action, if it is unknown, -/
def actionIssues (step : StepRecord) : List Issue :=
  if step.action?.isNone then [.unrecognizedAction step.indexStep step.action] else []

/-- and those about its selectors of unknown types. -/
def selectorIssues (step : StepRecord) : List Issue :=
  (step.selectors.filter fun c => c.kind?.isNone).map fun c =>
    .unknownSelector step.indexStep c.type

variable (script : TestScript)

/-- The names in a step that no scenario has a value for. -/
def unsupplied (step : StepRecord) : List String :=
  step.placeholders.filter fun name => !script.supplies name

/-- The issues about a step's placeholders without a value. -/
def placeholderIssues (step : StepRecord) : List Issue :=
  if script.dataScenarios.isEmpty then []
  else (script.unsupplied step).map fun name => .unsuppliedPlaceholder step.indexStep name

/-- **The issues of a step** are about its action, its selectors, and its placeholders. -/
theorem stepIssues_eq (step : StepRecord) : script.stepIssues step =
    actionIssues step ++ selectorIssues step ++ script.placeholderIssues step := rfl

theorem concern_of_mem_actionIssues {step : StepRecord} :
    ∀ issue ∈ actionIssues step, issue.concern = .action := by
  intro issue mem
  rw [actionIssues] at mem
  split at mem
  · rw [List.mem_singleton.1 mem]
    rfl
  · exact nomatch mem

theorem concern_of_mem_selectorIssues {step : StepRecord} :
    ∀ issue ∈ selectorIssues step, issue.concern = .selector := by
  intro issue mem
  obtain ⟨c, -, rfl⟩ := List.mem_map.1 mem
  rfl

theorem concern_of_mem_placeholderIssues {step : StepRecord} :
    ∀ issue ∈ script.placeholderIssues step, issue.concern = .placeholder := by
  intro issue mem
  rw [placeholderIssues] at mem
  split at mem
  · exact nomatch mem
  · obtain ⟨name, -, rfl⟩ := List.mem_map.1 mem
    rfl

theorem concern_of_mem_orderIssues {steps : List StepRecord} :
    ∀ issue ∈ orderIssues steps, issue.concern = .order := by
  fun_induction orderIssues steps with
  | case1 a b rest ih =>
    refine List.forall_mem_append.2 ⟨fun issue mem => ?_, ih⟩
    split at mem
    · rw [List.mem_singleton.1 mem]
      rfl
    · exact nomatch mem
  | case2 => exact fun issue mem => nomatch mem

/-- **The issues of a script that are about one thing** are found step by step. -/
theorem issuesOf_eq (concern : Concern) : script.issuesOf concern = match concern with
    | .action => script.steps.flatMap actionIssues
    | .selector => script.steps.flatMap selectorIssues
    | .placeholder => script.steps.flatMap script.placeholderIssues
    | .order => orderIssues script.steps := by
  rw [issuesOf, lint, List.filter_append, List.filter_flatMap,
    filter_concern concern_of_mem_orderIssues]
  simp only [stepIssues_eq, List.filter_append, filter_concern concern_of_mem_actionIssues,
    filter_concern concern_of_mem_selectorIssues,
    filter_concern (script.concern_of_mem_placeholderIssues)]
  cases concern <;> simp

/-- **A lint is silent** if it has nothing to say about any of the four. -/
theorem lint_eq_nil_iff : script.lint = [] ↔ script.issuesOf .action = [] ∧
    script.issuesOf .selector = [] ∧ script.issuesOf .placeholder = [] ∧
    script.issuesOf .order = [] := by
  constructor
  · intro silent
    simp [issuesOf, silent]
  · rintro ⟨action, selector, placeholder, order⟩
    refine List.eq_nil_iff_forall_not_mem.2 fun issue mem => ?_
    have kept : issue ∈ script.issuesOf issue.concern :=
      List.mem_filter.2 ⟨mem, decide_eq_true rfl⟩
    cases issue with
    | unrecognizedAction => exact List.not_mem_nil (action ▸ kept)
    | unknownSelector => exact List.not_mem_nil (selector ▸ kept)
    | unsuppliedPlaceholder => exact List.not_mem_nil (placeholder ▸ kept)
    | decreasingIndex => exact List.not_mem_nil (order ▸ kept)

/-! ## Silence -/

/-- Nothing is said about the action of a step with a handler. -/
theorem actionIssues_eq_nil_iff {step : StepRecord} :
    actionIssues step = [] ↔ (Registry.standard.handler? step).isSome := by
  rw [← Option.not_isNone, Registry.isNone_handler?_standard, actionIssues]
  cases step.action? <;> simp

/-- There is an issue for each step without a handler. -/
theorem flatMap_actionIssues (steps : List StepRecord) : steps.flatMap actionIssues =
    (steps.filter fun step => (Registry.standard.handler? step).isNone).map fun step =>
      .unrecognizedAction step.indexStep step.action := by
  induction steps with
  | nil => rfl
  | cons step rest ih =>
    rw [List.flatMap_cons, ih, actionIssues, List.filter_cons, Registry.isNone_handler?_standard]
    split <;> rfl

/-- Nothing is said about the selectors of a step if all are known. -/
theorem selectorIssues_eq_nil_iff {step : StepRecord} :
    selectorIssues step = [] ↔ ∀ c ∈ step.selectors, c.kind?.isSome := by
  rw [selectorIssues, List.map_eq_nil_iff, List.filter_eq_nil_iff]
  simp only [Option.isNone_iff_eq_none, Option.isSome_iff_ne_none, ne_eq]

/-- The names in a step without a value are those that it mentions and no scenario supplies, -/
theorem mem_unsupplied {step : StepRecord} {name : String} :
    name ∈ script.unsupplied step ↔ step.Mentions name ∧ ¬ script.Supplies name := by
  rw [unsupplied, List.mem_filter, StepRecord.mem_placeholders_iff, ← supplies_iff,
    Bool.not_eq_true', Bool.not_eq_true]

/-- each once. -/
theorem nodup_unsupplied (step : StepRecord) : (script.unsupplied step).Nodup :=
  step.nodup_placeholders.filter _

/-- Without scenarios nothing is said about placeholders. -/
theorem placeholderIssues_of_not_hasScenarios (without : ¬ script.HasScenarios)
    (step : StepRecord) : script.placeholderIssues step = [] := by
  rw [placeholderIssues, if_pos (isEmpty_dataScenarios.2 without)]

/-- With scenarios the names without a value are told. -/
theorem placeholderIssues_of_hasScenarios (scenarios : script.HasScenarios) (step : StepRecord) :
    script.placeholderIssues step =
      (script.unsupplied step).map fun name => .unsuppliedPlaceholder step.indexStep name := by
  rw [placeholderIssues, if_neg fun isEmpty => isEmpty_dataScenarios.1 isEmpty scenarios]

/-- Nothing is said about the placeholders of a step if there are no scenarios, or all that it
mentions is supplied. -/
theorem placeholderIssues_eq_nil_iff {step : StepRecord} : script.placeholderIssues step = [] ↔
    (script.HasScenarios → ∀ name, step.Mentions name → script.Supplies name) := by
  by_cases scenarios : script.HasScenarios
  · rw [script.placeholderIssues_of_hasScenarios scenarios, List.map_eq_nil_iff,
      List.eq_nil_iff_forall_not_mem, forall_prop_of_true scenarios]
    simp only [mem_unsupplied, not_and, not_not]
  · rw [script.placeholderIssues_of_not_hasScenarios scenarios, forall_prop_of_false scenarios,
      eq_self_iff_true]

/-- **Neighbours in order are a list in order.** -/
theorem orderIssues_eq_nil_iff (steps : List StepRecord) :
    orderIssues steps = [] ↔ (steps.map (·.indexStep)).Pairwise (· ≤ ·) := by
  rw [← List.isChain_iff_pairwise, List.isChain_map]
  -- the first two steps are compared, and the others are in order by induction
  fun_induction orderIssues steps with
  | case1 a b rest ih =>
    rw [List.append_eq_nil_iff, ih, List.isChain_cons_cons, ← UInt32.not_lt]
    refine and_congr ?_ Iff.rfl
    split
    · next decreases => exact iff_of_false (List.cons_ne_nil _ _) (not_not_intro decreases)
    · next follows => exact iff_of_true rfl follows
  | case2 steps short =>
    refine iff_of_true rfl ?_
    match steps with
    | [] => exact .nil
    | [a] => exact .singleton a
    | a :: b :: rest => exact absurd rfl (short a b rest)

end TestScript

/-! ## Scripts -/

/-- **The lint of a script foretells what a run meets.** -/
structure TestScript.Foretells (script : TestScript) : Prop where
  /-- The lint is silent exactly if every action has a handler, every type of a selector is known,
  every name is supplied where there are scenarios, and the steps are in the order of their
  numbers. -/
  silent_iff : script.lint = [] ↔
    (∀ step ∈ script.steps, (Registry.standard.handler? step).isSome) ∧
    (∀ step ∈ script.steps, ∀ c ∈ step.selectors, c.kind?.isSome) ∧
    (¬ script.HasScenarios ∨
      ∀ step ∈ script.steps, ∀ name, step.Mentions name → script.Supplies name) ∧
    (script.steps.map (·.indexStep)).Pairwise (· ≤ ·)
  /-- There is an issue for each step without a handler, in the order of the steps, and no other
  issue about an action: -/
  action_eq : script.issuesOf .action =
    (script.steps.filter fun step => (Registry.standard.handler? step).isNone).map fun step =>
      .unrecognizedAction step.indexStep step.action
  /-- those are the steps that fail alone, in every world. -/
  action_iff : ∀ {σ : Type} (w : World σ) (s : σ) (ctx : StepContext) (step : StepRecord),
    (Registry.standard.handler? step).isNone ↔
      (w.transcript (dispatch .standard ctx step) s).FailsAlone step
  /-- There is an issue for each selector without a kind, step by step, and no other issue about a
  selector: -/
  selector_eq : script.issuesOf .selector = script.steps.flatMap fun step =>
    (step.selectors.filter fun c => c.kind?.isNone).map fun c =>
      .unknownSelector step.indexStep c.type
  /-- those are the selectors that a search passes over, -/
  selector_iff : ∀ c : Selector, c.kind?.isNone ↔ c.PassedOver
  /-- and all others are attempted. -/
  attempted_iff : ∀ c : Selector, c.kind?.isSome ↔ c.Attempted
  /-- Without scenarios there is no issue about a placeholder. -/
  placeholder_nil : ¬ script.HasScenarios → script.issuesOf .placeholder = []
  /-- With scenarios there is one for each name that a step mentions and no scenario supplies, once
  for each of the steps. -/
  placeholder_eq : script.HasScenarios → ∃ names : StepRecord → List String,
    (∀ step, (names step).Nodup ∧
      ∀ name, name ∈ names step ↔ step.Mentions name ∧ ¬ script.Supplies name) ∧
    script.issuesOf .placeholder = script.steps.flatMap fun step =>
      (names step).map fun name => .unsuppliedPlaceholder step.indexStep name

/-- **The lint agrees with the engine**, for every script. -/
theorem lint_foretells (script : TestScript) : script.Foretells where
  silent_iff := by
    rw [TestScript.lint_eq_nil_iff]
    simp only [TestScript.issuesOf_eq, List.flatMap_eq_nil_iff, TestScript.actionIssues_eq_nil_iff,
      TestScript.selectorIssues_eq_nil_iff, TestScript.placeholderIssues_eq_nil_iff,
      TestScript.orderIssues_eq_nil_iff]
    refine and_congr Iff.rfl (and_congr Iff.rfl (and_congr ?_ Iff.rfl))
    by_cases scenarios : script.HasScenarios <;> simp [scenarios]
  action_eq := by rw [TestScript.issuesOf_eq, TestScript.flatMap_actionIssues]
  action_iff w s ctx step := by
    rw [Option.isNone_iff_eq_none]
    exact (yields_dispatch (w.yields _ s)).handler?_eq_none_iff
  selector_eq := script.issuesOf_eq .selector
  selector_iff c := by rw [Option.isNone_iff_eq_none, c.kind?_eq_none_iff_passedOver]
  attempted_iff c := c.isSome_kind?_iff_attempted
  placeholder_nil without := by
    rw [TestScript.issuesOf_eq]
    exact List.flatMap_eq_nil_iff.2 fun step _ =>
      script.placeholderIssues_of_not_hasScenarios without step
  placeholder_eq scenarios := by
    refine ⟨script.unsupplied, fun step => ⟨script.nodup_unsupplied step, fun name =>
      script.mem_unsupplied⟩, ?_⟩
    rw [TestScript.issuesOf_eq]
    exact List.flatMap_congr fun step _ => script.placeholderIssues_of_hasScenarios scenarios step

end Playback
