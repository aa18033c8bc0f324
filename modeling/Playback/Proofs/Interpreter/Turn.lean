import Playback.Proofs.Interpreter.Course

/-!
# The turns of steps in a world

In a world, a run through steps is a sequence of turns: the token is looked at, the step dispatched,
and the run goes on as the step left it.

* `turn`, `follow` — **the turn of a step, and what follows it**; `World.interpretFrom_of_refused`
  and `World.interpretFrom_of_free` take a run apart at its first turn;
* `World.interpretFrom_forgets` — what a run asks for does not depend on its outcome so far;
* `World.handled`, `AbortsTest` — **what the handler of a step comes to**, and whether that aborts
  the test; `World.run_turn_eq_ended_true` says that its turn ends so.
-/

namespace Playback

open Routine

/-- **The turn of a step**: the token is looked at, and the step dispatched. -/
def turn (registry : Registry) (ctx : StepContext) (step : StepRecord) : Routine Dispatched := do
  let _ ← Routine.request .check
  dispatch registry ctx step

/-- The outcome of a run in which one more step was dispatched. -/
def RunOutcome.past (outcome : RunOutcome) (step : StepRecord) : RunOutcome :=
  { outcome with
    lastIndexStep := some step.indexStep
    stepsDispatched := outcome.stepsDispatched + 1 }

/-- What follows the turn of a step, with the steps that remain. -/
def follow (registry : Registry) (ctx : StepContext) (rest : List StepRecord)
    (outcome : RunOutcome) : Dispatched → Routine RunOutcome
  | .cancelled => return { outcome with cancelled := true }
  | .ended halt =>
    if halt && ctx.config.abortPolicy = .haltOnAbort then do
      skipSteps rest
      return { outcome with halted := true }
    else interpretFrom registry ctx rest outcome

/-- A run through steps looks at the token, dispatches the first and goes on from there. -/
theorem interpretFrom_cons (registry : Registry) (ctx : StepContext) (step : StepRecord)
    (rest : List StepRecord) (outcome : RunOutcome) :
    interpretFrom registry ctx (step :: rest) outcome =
      Routine.request .check >>= fun cancelled =>
        if cancelled then return { outcome with cancelled := true }
        else dispatch registry ctx step >>= follow registry ctx rest (outcome.past step) := rfl

namespace World

variable {σ : Type} (w : World σ) {registry : Registry} {ctx : StepContext} {step : StepRecord}
  {rest : List StepRecord} {outcome : RunOutcome} {s : σ}

/-- A run that finds the token cancelled ends there. -/
theorem interpretFrom_of_refused (cancelled : (w.reply s .check).1 = true) :
    w.log (interpretFrom registry ctx (step :: rest) outcome) s =
        [⟨s, .check, (w.reply s .check).1⟩] ∧
      w.run (interpretFrom registry ctx (step :: rest) outcome) s =
        ({ outcome with cancelled := true }, (w.reply s .check).2) := by
  rw [interpretFrom_cons, log_bind, run_bind]
  change _ ++ w.log (if (w.reply s .check).1 = true then _ else _) (w.reply s .check).2 = _ ∧
    w.run (if (w.reply s .check).1 = true then _ else _) (w.reply s .check).2 = _
  rw [if_pos cancelled]
  exact ⟨rfl, rfl⟩

/-- **A run that does not find the token cancelled** goes on from the turn of its first step. -/
theorem interpretFrom_of_free (free : (w.reply s .check).1 = false) :
    w.log (interpretFrom registry ctx (step :: rest) outcome) s =
        w.log (turn registry ctx step) s ++
          w.log (follow registry ctx rest (outcome.past step) (w.run (turn registry ctx step) s).1)
            (w.run (turn registry ctx step) s).2 ∧
      w.run (interpretFrom registry ctx (step :: rest) outcome) s =
        w.run (follow registry ctx rest (outcome.past step) (w.run (turn registry ctx step) s).1)
          (w.run (turn registry ctx step) s).2 := by
  have calm : ¬ (w.reply s .check).1 = true := by simp [free]
  rw [interpretFrom_cons, log_bind, run_bind]
  change _ ++ w.log (if (w.reply s .check).1 = true then _ else _) (w.reply s .check).2 = _ ∧
    w.run (if (w.reply s .check).1 = true then _ else _) (w.reply s .check).2 = _
  rw [if_neg calm, log_bind, run_bind]
  exact ⟨rfl, rfl⟩

/-- What a run asks for does not depend on what has come of it so far. -/
theorem interpretFrom_forgets (registry : Registry) (ctx : StepContext) (steps : List StepRecord)
    (o o' : RunOutcome) (s : σ) :
    w.log (interpretFrom registry ctx steps o) s = w.log (interpretFrom registry ctx steps o') s ∧
      (w.run (interpretFrom registry ctx steps o) s).2 =
        (w.run (interpretFrom registry ctx steps o') s).2 := by
  induction steps generalizing o o' s with
  | nil => exact ⟨rfl, rfl⟩
  | cons step rest ih =>
    cases check : (w.reply s .check).1 with
    | true =>
      rw [(w.interpretFrom_of_refused check).1, (w.interpretFrom_of_refused check).2,
        (w.interpretFrom_of_refused check).1, (w.interpretFrom_of_refused check).2]
      exact ⟨rfl, rfl⟩
    | false =>
      rw [(w.interpretFrom_of_free check).1, (w.interpretFrom_of_free check).2,
        (w.interpretFrom_of_free check).1, (w.interpretFrom_of_free check).2]
      -- both runs take the same turn, and what follows it depends on how the turn ended
      generalize w.run (turn registry ctx step) s = result
      obtain ⟨d, s'⟩ := result
      cases d with
      | cancelled => exact ⟨rfl, rfl⟩
      | ended halt =>
        dsimp only [follow]
        split
        · rw [log_bind, log_bind, run_bind, run_bind]
          exact ⟨rfl, rfl⟩
        · obtain ⟨log, after⟩ := ih (o.past step) (o'.past step) s'
          exact ⟨by rw [log], after⟩

/-- **What the handler of a step comes to** in its turn: the outcome that it hands back, or why it
breaks off. Without a handler it is nothing. -/
def handled (registry : Registry) (ctx : StepContext) (step : StepRecord) (s : σ) :
    Option (Except StepError ActionOutcome) :=
  (registry.handler? step).map fun handler =>
    (w.run (do
      let _ ← Routine.request .check
      let _ ← Routine.request .clock
      (handler ctx (step.substitute ctx.data)).run) s).1

end World

/-- **A step aborts the test**: its outcome says so or is fatal, or its handler breaks off for
another reason than the cancellation. A step without a handler does not. -/
def AbortsTest : Option (Except StepError ActionOutcome) → Prop
  | none => False
  | some (.ok outcome) => outcome.abortTest = true ∨ outcome.fatal = true
  | some (.error e) => e ≠ .cancelled

namespace World

variable {σ : Type} (w : World σ) {registry : Registry} {ctx : StepContext} {step : StepRecord}
  {s : σ}

/-- What follows the end of a handler ends a step with a halt iff the step aborted the test. -/
theorem run_conclude_eq_ended_true {started : Nat} {result : Except StepError ActionOutcome} :
    (w.run (conclude step started result) s).1 = .ended true ↔ AbortsTest (some result) := by
  cases result with
  | ok outcome =>
    change Dispatched.ended outcome.shouldHalt = .ended true ↔ _
    simp [ActionOutcome.shouldHalt, AbortsTest]
  | error e =>
    cases e with
    | cancelled =>
      rw [conclude, run_bind]
      exact iff_of_false (fun h => nomatch h) fun h => h rfl
    | invalidStep index reason =>
      rw [conclude, run_bind, run_bind]
      · exact iff_of_true rfl fun h => nomatch h
      · exact fun h => nomatch h
    | page fault =>
      rw [conclude, run_bind, run_bind]
      · exact iff_of_true rfl fun h => nomatch h
      · exact fun h => nomatch h

/-- **A turn ends with a halt** exactly if its step aborted the test. -/
theorem run_turn_eq_ended_true :
    (w.run (turn registry ctx step) s).1 = .ended true ↔
      AbortsTest (w.handled registry ctx step s) := by
  rw [turn, handled, dispatch, run_bind, run_bind]
  cases registry.handler? step with
  | none =>
    dsimp only [Option.map_none]
    rw [run_bind]
    exact iff_of_false (fun h => Bool.noConfusion (Dispatched.ended.inj h)) not_false
  | some handler =>
    dsimp only [Option.map_some]
    rw [run_bind, run_bind, run_bind]
    exact w.run_conclude_eq_ended_true

end World

end Playback
