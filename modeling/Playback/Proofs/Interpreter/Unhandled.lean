import Playback.Proofs.Interpreter.Grammar
import Playback.Proofs.Interpreter.Turn
import Playback.Proofs.Routine.Setting

/-!
# Steps without a handler

A step whose action is unknown, or has no handler, is reported and nothing else: a run without such
steps makes the same calls at the same times, halts alike, and reports the same but for them.

* `Registry.handledSteps` — **the steps that have a handler**;
* `UnhandledReport` — **what a run reports on a step without one**: that it failed, that it was
  skipped, or nothing, as the run reached the step, had halted before it, or was cancelled before
  it;
* `Thinned` — **two streams of events**, the second without the reports on such steps;
* `Setting.inert_interpretFrom` — leaving them out thins the events of a run, and changes neither
  its calls nor whether it halts;
* `interpret_handledSteps` — that for whole runs.
-/

namespace Playback

open Routine

/-! ## Streams without some reports -/

/-- **The steps that have a handler.** -/
def Registry.handledSteps (registry : Registry) (steps : List StepRecord) : List StepRecord :=
  steps.filter fun step => (registry.handler? step).isSome

/-- **What a run reports on a step without a handler**, from the place of the step and the outcome of
the run. -/
inductive UnhandledReport (outcome : RunOutcome) (place : Nat) (step : StepRecord) :
    List ProgressEvent → Prop where
  /-- The run reached the step, which failed at once. -/
  | failed (reached : place < outcome.stepsDispatched) :
      UnhandledReport outcome place step [step.failureReport (noHandler step.action) 0 none]
  /-- The run had halted before the step. -/
  | skipped (unreached : outcome.stepsDispatched ≤ place) (halted : outcome.halted = true) :
      UnhandledReport outcome place step [.skipped step.indexStep step.label]
  /-- The run was cancelled before the step. -/
  | unreported (unreached : outcome.stepsDispatched ≤ place) (cancelled : outcome.cancelled = true) :
      UnhandledReport outcome place step []

/-- **Two streams of events on some steps**, from the place of the first: the second is without the
reports on the steps that have no handler. -/
inductive Thinned (registry : Registry) (outcome : RunOutcome) :
    Nat → List StepRecord → List ProgressEvent → List ProgressEvent → Prop where
  | nil (place : Nat) : Thinned registry outcome place [] [] []
  /-- What is reported on a step with a handler stands in both. -/
  | kept {place : Nat} {step : StepRecord} {rest : List StepRecord}
      {part events thinned : List ProgressEvent}
      (found : (registry.handler? step).isSome = true)
      (following : Thinned registry outcome (place + 1) rest events thinned) :
      Thinned registry outcome place (step :: rest) (part ++ events) (part ++ thinned)
  /-- What is reported on a step without one stands in the first alone. -/
  | deleted {place : Nat} {step : StepRecord} {rest : List StepRecord}
      {part events thinned : List ProgressEvent}
      (missing : registry.handler? step = none) (report : UnhandledReport outcome place step part)
      (following : Thinned registry outcome (place + 1) rest events thinned) :
      Thinned registry outcome place (step :: rest) (part ++ events) thinned

/-- A step with a handler stays in the list. -/
theorem Registry.handledSteps_cons_of_isSome {registry : Registry} {step : StepRecord}
    (found : (registry.handler? step).isSome = true) (rest : List StepRecord) :
    registry.handledSteps (step :: rest) = step :: registry.handledSteps rest :=
  List.filter_cons_of_pos found

/-- A step without a handler is left out. -/
theorem Registry.handledSteps_cons_of_none {registry : Registry} {step : StepRecord}
    (missing : registry.handler? step = none) (rest : List StepRecord) :
    registry.handledSteps (step :: rest) = registry.handledSteps rest :=
  List.filter_cons_of_neg (by simp [missing])

/-- The reports on skipped steps. -/
def skipReports (steps : List StepRecord) : List ProgressEvent :=
  steps.map fun step => .skipped step.indexStep step.label

namespace Thinned

variable {registry : Registry} {outcome : RunOutcome} {place : Nat}

/-- After a halt all steps are skipped, and without a handler they are not reported. -/
theorem skips (halted : outcome.halted = true) (steps : List StepRecord)
    (unreached : outcome.stepsDispatched ≤ place) :
    Thinned registry outcome place steps (skipReports steps)
      (skipReports (registry.handledSteps steps)) := by
  induction steps generalizing place with
  | nil => exact .nil place
  | cons step rest ih =>
    have following := ih (Nat.le_succ_of_le unreached)
    by_cases found : (registry.handler? step).isSome = true
    · rw [Registry.handledSteps_cons_of_isSome found]
      have skipped : Thinned registry outcome place (step :: rest)
          ([.skipped step.indexStep step.label] ++ skipReports rest)
          ([.skipped step.indexStep step.label] ++ skipReports (registry.handledSteps rest)) :=
        .kept found following
      exact skipped
    · have missing : registry.handler? step = none := by simpa using found
      rw [Registry.handledSteps_cons_of_none missing]
      exact .deleted missing (.skipped unreached halted) following

/-- After a cancellation nothing is reported. -/
theorem unreported (cancelled : outcome.cancelled = true) (steps : List StepRecord)
    (unreached : outcome.stepsDispatched ≤ place) :
    Thinned registry outcome place steps [] [] := by
  induction steps generalizing place with
  | nil => exact .nil place
  | cons step rest ih =>
    have following := ih (Nat.le_succ_of_le unreached)
    by_cases found : (registry.handler? step).isSome = true
    · have nothing : Thinned registry outcome place (step :: rest) ([] ++ []) ([] ++ []) :=
        .kept found following
      exact nothing
    · have missing : registry.handler? step = none := by simpa using found
      exact .deleted missing (.unreported unreached cancelled) following

end Thinned

/-! ## Runs without some steps -/

/-- A run through steps dispatches no fewer than were dispatched before. -/
theorem World.le_stepsDispatched {σ : Type} (w : World σ) (registry : Registry) (ctx : StepContext)
    (steps : List StepRecord) (outcome : RunOutcome) (s : σ) :
    outcome.stepsDispatched ≤
      (w.run (interpretFrom registry ctx steps outcome) s).1.stepsDispatched := by
  obtain ⟨legs, ending, -, -, after⟩ :=
    yields_interpretFrom (w.yields (interpretFrom registry ctx steps outcome) s)
  rw [after, foldl_advance]
  cases ending <;> exact Nat.le_add_right _ _

namespace Setting

variable {σ : Type} (e : Setting σ) {registry : Registry} {ctx : StepContext} {step : StepRecord}
  {rest : List StepRecord} {s s' : σ}

/-- The turn of a step without a handler changes nothing, and takes no time: it reports the
failure. -/
theorem turn_of_unhandled (missing : registry.handler? step = none) (ctx : StepContext) (s : σ) :
    e.timedCalls (turn registry ctx step) s = [] ∧
      e.world.events (turn registry ctx step) s =
        [step.failureReport (noHandler step.action) 0 none] ∧
      e.world.run (turn registry ctx step) s = (.ended false, s) := by
  have asks : turn registry ctx step = (do
      let _ ← Routine.request .check
      let started ← Routine.request .clock
      reportFailure step started (noHandler step.action) none
      return .ended false) := by
    rw [turn, dispatch, missing]
  have elapsed : e.clock s - e.clock s = 0 := Nat.sub_self _
  rw [asks, ← elapsed]
  exact ⟨rfl, rfl, rfl⟩

/-- Skipped steps are reported without a call. -/
theorem events_skipSteps (steps : List StepRecord) (s : σ) :
    e.timedCalls (skipSteps steps) s = [] ∧ e.world.events (skipSteps steps) s = skipReports steps := by
  induction steps with
  | nil => exact ⟨rfl, rfl⟩
  | cons step rest ih =>
    obtain ⟨calls, events⟩ := ih
    rw [skipSteps, timedCalls_bind, events_bind]
    exact ⟨calls, congrArg (_ :: ·) events⟩

/-- A run that skips its last steps makes no call in that, and ends as it is. -/
theorem skipSteps_return (steps : List StepRecord) (outcome : RunOutcome) (s : σ) :
    let skipping : Routine RunOutcome := do
      skipSteps steps
      return outcome
    e.timedCalls skipping s = [] ∧ e.world.events skipping s = skipReports steps ∧
      (e.world.run skipping s).1 = outcome := by
  obtain ⟨calls, events⟩ := e.events_skipSteps steps s
  dsimp only
  rw [timedCalls_bind, events_bind, World.run_bind, calls, events]
  exact ⟨rfl, List.append_nil _, rfl⟩

/-- **A run without the steps that have no handler**, beside the whole run. -/
structure Spares (registry : Registry) (ctx : StepContext) (steps : List StepRecord)
    (outcome outcome' : RunOutcome) (s : σ) : Prop where
  /-- Both make the same calls, at the same times. -/
  calls_eq : e.timedCalls (interpretFrom registry ctx (registry.handledSteps steps) outcome') s =
    e.timedCalls (interpretFrom registry ctx steps outcome) s
  /-- Both halt, or none. -/
  halted_eq :
    (e.world.run (interpretFrom registry ctx (registry.handledSteps steps) outcome') s).1.halted =
      (e.world.run (interpretFrom registry ctx steps outcome) s).1.halted
  /-- The whole run alone reports on those steps. -/
  thinned : Thinned registry (e.world.run (interpretFrom registry ctx steps outcome) s).1
    outcome.stepsDispatched steps (e.world.events (interpretFrom registry ctx steps outcome) s)
    (e.world.events (interpretFrom registry ctx (registry.handledSteps steps) outcome') s)

variable {e} {outcome outcome' : RunOutcome} {d : Dispatched}

/-- A run that finds the token cancelled makes no call and reports nothing. -/
theorem idle_of_cancelled (cancelled : e.cancelled s = true) (registry : Registry)
    (ctx : StepContext) (steps : List StepRecord) (outcome : RunOutcome) :
    e.timedCalls (interpretFrom registry ctx steps outcome) s = [] ∧
      e.world.events (interpretFrom registry ctx steps outcome) s = [] ∧
      (e.world.run (interpretFrom registry ctx steps outcome) s).1.halted = outcome.halted := by
  cases steps with
  | nil => exact ⟨rfl, rfl, rfl⟩
  | cons step rest =>
    have check : (e.world.reply s .check).1 = true := cancelled
    rw [timedCalls, World.events_eq, (e.world.interpretFrom_of_refused check).1,
      (e.world.interpretFrom_of_refused check).2]
    exact ⟨rfl, rfl, rfl⟩

/-- Cancelled runs make no call and report nothing, with or without some steps. -/
theorem spares_of_cancelled (cancelled : e.cancelled s = true)
    (alike : outcome'.halted = outcome.halted) :
    e.Spares registry ctx (step :: rest) outcome outcome' s := by
  have check : (e.world.reply s .check).1 = true := cancelled
  obtain ⟨calls, events, halted⟩ := idle_of_cancelled cancelled registry ctx (step :: rest) outcome
  obtain ⟨calls', events', halted'⟩ :=
    idle_of_cancelled cancelled registry ctx (registry.handledSteps (step :: rest)) outcome'
  constructor
  · rw [calls, calls']
  · rw [halted, halted', alike]
  · rw [events, events', (e.world.interpretFrom_of_refused check).2]
    exact .unreported rfl (step :: rest) (Nat.le_refl _)

/-- **A run that does not find the token cancelled** puts what follows the turn of its first step
after that turn. -/
theorem after_turn (free : e.cancelled s = false)
    (turned : e.world.run (turn registry ctx step) s = (d, s')) (rest : List StepRecord)
    (outcome : RunOutcome) :
    let following := follow registry ctx rest (outcome.past step) d
    e.timedCalls (interpretFrom registry ctx (step :: rest) outcome) s =
        e.timedCalls (turn registry ctx step) s ++ e.timedCalls following s' ∧
      e.world.events (interpretFrom registry ctx (step :: rest) outcome) s =
        e.world.events (turn registry ctx step) s ++ e.world.events following s' ∧
      e.world.run (interpretFrom registry ctx (step :: rest) outcome) s =
        e.world.run following s' := by
  have check : (e.world.reply s .check).1 = false := free
  dsimp only
  refine ⟨?_, ?_, ?_⟩
  · rw [timedCalls, (e.world.interpretFrom_of_free check).1, turned, timed_append]
    rfl
  · rw [World.events_eq, (e.world.interpretFrom_of_free check).1, turned, reports_append]
    rfl
  · rw [(e.world.interpretFrom_of_free check).2, turned]

/-- **A step without a handler** is spared if those after it are. -/
theorem Spares.deleted (free : e.cancelled s = false) (missing : registry.handler? step = none)
    (following : e.Spares registry ctx rest (outcome.past step) outcome' s) :
    e.Spares registry ctx (step :: rest) outcome outcome' s := by
  obtain ⟨calls, events, turned⟩ := e.turn_of_unhandled missing ctx s
  -- such a step never halts a run, whatever the policy
  have goesOn : follow registry ctx rest (outcome.past step) (.ended false) =
      interpretFrom registry ctx rest (outcome.past step) := rfl
  obtain ⟨whole, reported, run⟩ := after_turn free turned rest outcome
  rw [goesOn] at whole reported run
  have dispatched := e.world.le_stepsDispatched registry ctx rest (outcome.past step) s
  constructor
  · rw [Registry.handledSteps_cons_of_none missing, following.calls_eq, whole, calls]
    rfl
  · rw [Registry.handledSteps_cons_of_none missing, following.halted_eq, run]
  · rw [Registry.handledSteps_cons_of_none missing, reported, events, run]
    exact .deleted missing (.failed dispatched) following.thinned

/-- **A step with a handler takes its turn in both runs.** What follows it is cut off, or skipped, or
it is spared. -/
theorem Spares.kept (free : e.cancelled s = false) (found : (registry.handler? step).isSome = true)
    (turned : e.world.run (turn registry ctx step) s = (d, s'))
    (alike : outcome'.halted = outcome.halted)
    (following : e.Spares registry ctx rest (outcome.past step) (outcome'.past step) s') :
    e.Spares registry ctx (step :: rest) outcome outcome' s := by
  obtain ⟨calls, events, run⟩ := after_turn free turned rest outcome
  obtain ⟨calls', events', run'⟩ :=
    after_turn free turned (registry.handledSteps rest) outcome'
  -- it is enough to compare what follows the turn
  suffices follows : e.timedCalls
        (follow registry ctx (registry.handledSteps rest) (outcome'.past step) d) s' =
          e.timedCalls (follow registry ctx rest (outcome.past step) d) s' ∧
      (e.world.run (follow registry ctx (registry.handledSteps rest) (outcome'.past step) d)
          s').1.halted =
        (e.world.run (follow registry ctx rest (outcome.past step) d) s').1.halted ∧
      Thinned registry (e.world.run (follow registry ctx rest (outcome.past step) d) s').1
        (outcome.past step).stepsDispatched rest
        (e.world.events (follow registry ctx rest (outcome.past step) d) s')
        (e.world.events (follow registry ctx (registry.handledSteps rest) (outcome'.past step) d)
          s') by
    obtain ⟨sameCalls, sameHalt, thinned⟩ := follows
    constructor
    · rw [Registry.handledSteps_cons_of_isSome found, calls, calls', sameCalls]
    · rw [Registry.handledSteps_cons_of_isSome found, run, run', sameHalt]
    · rw [Registry.handledSteps_cons_of_isSome found, run, events, events']
      exact .kept found thinned
  cases d with
  | cancelled => exact ⟨rfl, alike, .unreported rfl rest (Nat.le_refl _)⟩
  | ended halt =>
    dsimp only [follow]
    by_cases halts : (halt && decide (ctx.config.abortPolicy = .haltOnAbort)) = true
    · rw [if_pos halts, if_pos halts]
      obtain ⟨calls, events, ended⟩ :=
        e.skipSteps_return rest { outcome.past step with halted := true } s'
      obtain ⟨calls', events', ended'⟩ := e.skipSteps_return (registry.handledSteps rest)
        { outcome'.past step with halted := true } s'
      rw [calls, calls', events, events', ended, ended']
      exact ⟨rfl, rfl, .skips rfl rest (Nat.le_refl _)⟩
    · rw [if_neg halts, if_neg halts]
      exact ⟨following.calls_eq, following.halted_eq, following.thinned⟩

/-- **Leaving steps without a handler out** thins the events of a run, and changes neither its calls
nor whether it halts. -/
theorem spares_interpretFrom (e : Setting σ) (registry : Registry) (ctx : StepContext)
    (steps : List StepRecord) (outcome outcome' : RunOutcome)
    (alike : outcome'.halted = outcome.halted) (s : σ) :
    e.Spares registry ctx steps outcome outcome' s := by
  induction steps generalizing outcome outcome' s with
  | nil => exact ⟨rfl, alike, .nil _⟩
  | cons step rest ih =>
    cases check : e.cancelled s with
    | true => exact spares_of_cancelled check alike
    | false =>
      cases found : registry.handler? step with
      | none => exact .deleted check found (ih (outcome.past step) outcome' alike s)
      | some handler =>
        have handled : (registry.handler? step).isSome = true := by rw [found]; rfl
        exact .kept check handled rfl alike (ih (outcome.past step) (outcome'.past step) alike _)

end Setting

/-- **Steps without a handler are inert**: a run without them makes the same calls at the same times,
halts if the whole run halts, and its events are those of the whole run without one report on each
of them — that the step failed if the run reached it, that it was skipped if the run had halted
before it, and none if the run was cancelled before it. -/
theorem interpret_handledSteps {σ : Type} (e : Setting σ) (registry : Registry) (ctx : StepContext)
    (steps : List StepRecord) (s : σ) :
    e.timedCalls (interpret registry ctx (registry.handledSteps steps)) s =
        e.timedCalls (interpret registry ctx steps) s ∧
      (e.world.run (interpret registry ctx (registry.handledSteps steps)) s).1.halted =
        (e.world.run (interpret registry ctx steps) s).1.halted ∧
      Thinned registry (e.world.run (interpret registry ctx steps) s).1 0 steps
        (e.world.events (interpret registry ctx steps) s)
        (e.world.events (interpret registry ctx (registry.handledSteps steps)) s) := by
  obtain ⟨calls, halted, thinned⟩ :=
    e.spares_interpretFrom registry ctx steps {} {} rfl s
  exact ⟨calls, halted, thinned⟩

end Playback
