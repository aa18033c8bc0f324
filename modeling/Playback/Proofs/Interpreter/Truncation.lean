import Playback.Proofs.Interpreter.Conduct
import Playback.Proofs.Interpreter.Grammar
import Playback.Proofs.Interpreter.Turn

/-!
# Halting is stopping early

The abort policy decides whether a run goes on after a step that aborted the test, and nothing else:
a run that may halt is a run that goes on, cut off after the first such step.

* `StepContext.under` — the same context under another policy; `Action.handler_under` says that no
  handler looks at it;
* `World.AbortsAfter` — **a step aborts the test** when its turn comes after some others;
* `World.Agrees`, `World.Halts` — **how a run that may halt compares with one that goes on**;
  `World.agrees_or_halts` says that there is no third way;
* `Truncates`, `interpret_truncates` — what that means for calls, events and outcomes.
-/

namespace Playback

open Routine

/-! ## Policies -/

/-- The same context under another abort policy. -/
def StepContext.under (ctx : StepContext) (policy : AbortPolicy) : StepContext :=
  { ctx with config := { ctx.config with abortPolicy := policy } }

@[simp] theorem StepContext.abortPolicy_under (ctx : StepContext) (policy : AbortPolicy) :
    (ctx.under policy).config.abortPolicy = policy := rfl

/-- **No handler looks at the abort policy.** -/
theorem Action.handler_under (a : Action) (ctx : StepContext) (policy : AbortPolicy) :
    a.handler (ctx.under policy) = a.handler ctx := by
  funext step
  cases a <;> rfl

/-- **A step is dispatched in the same way** under every policy. -/
theorem dispatch_under (registry : Registry) (ctx : StepContext) (policy : AbortPolicy)
    (step : StepRecord) : dispatch registry (ctx.under policy) step = dispatch registry ctx step := by
  rw [dispatch, dispatch]
  cases found : registry.handler? step with
  | none => rfl
  | some handler =>
    obtain ⟨a, -, -, rfl⟩ := Registry.handler?_eq_some found
    have same := congrFun (a.handler_under ctx policy) (step.substitute ctx.data)
    exact congrArg (fun attempt : Attempt ActionOutcome =>
      Routine.request .clock >>= fun started => attempt.run >>= conclude step started) same

/-- A run that goes on follows every turn that was not cancelled with the steps that remain. -/
theorem follow_continue (registry : Registry) (ctx : StepContext) (rest : List StepRecord)
    (outcome : RunOutcome) (halt : Bool) :
    follow registry (ctx.under .continue) rest outcome (.ended halt) =
      interpretFrom registry (ctx.under .continue) rest outcome := by
  cases halt <;> rfl

/-- A turn is the same under every policy. -/
theorem turn_under (registry : Registry) (ctx : StepContext) (policy : AbortPolicy)
    (step : StepRecord) : turn registry (ctx.under policy) step = turn registry ctx step := by
  rw [turn, dispatch_under]
  rfl

/-! ## Two runs -/

/-- **Steps carried out whatever comes of them**, and then the turn of one more. -/
def turnAfter (registry : Registry) (ctx : StepContext) (before : List StepRecord)
    (step : StepRecord) : Routine Dispatched := do
  let _ ← interpret registry (ctx.under .continue) before
  turn registry ctx step

namespace World

variable {σ : Type}

/-- **A step aborts the test** when its turn comes after some others. -/
def AbortsAfter (w : World σ) (registry : Registry) (ctx : StepContext) (before : List StepRecord)
    (step : StepRecord) (s : σ) : Prop :=
  AbortsTest (w.handled registry ctx step
    (w.run (interpret registry (ctx.under .continue) before) s).2)

/-- **Two runs agree**: the one that may halt and the one that goes on. No step that is dispatched
aborts the test. -/
structure Agrees (w : World σ) (registry : Registry) (ctx : StepContext) (steps : List StepRecord)
    (outcome : RunOutcome) (s : σ) : Prop where
  log_eq : w.log (interpretFrom registry (ctx.under .haltOnAbort) steps outcome) s =
    w.log (interpretFrom registry (ctx.under .continue) steps outcome) s
  run_eq : w.run (interpretFrom registry (ctx.under .haltOnAbort) steps outcome) s =
    w.run (interpretFrom registry (ctx.under .continue) steps outcome) s
  spared : ∀ before step rest, steps = before ++ step :: rest →
    outcome.stepsDispatched + before.length <
      (w.run (interpretFrom registry (ctx.under .continue) steps outcome) s).1.stepsDispatched →
    ¬ w.AbortsAfter registry ctx before step s

/-- **A run halts at a step**, the first that aborts the test: up to the end of its turn it is the
run that goes on, and then the other steps are skipped. -/
structure Halts (w : World σ) (registry : Registry) (ctx : StepContext) (steps : List StepRecord)
    (outcome : RunOutcome) (s : σ) (before : List StepRecord) (step : StepRecord)
    (rest : List StepRecord) : Prop where
  steps_eq : steps = before ++ step :: rest
  log_eq : w.log (interpretFrom registry (ctx.under .haltOnAbort) steps outcome) s =
    w.log (turnAfter registry ctx before step) s ++
      w.log (skipSteps rest) (w.run (turnAfter registry ctx before step) s).2
  log_prefix : w.log (turnAfter registry ctx before step) s <+:
    w.log (interpretFrom registry (ctx.under .continue) steps outcome) s
  outcome_eq : (w.run (interpretFrom registry (ctx.under .haltOnAbort) steps outcome) s).1 =
    { outcome with
      lastIndexStep := some step.indexStep
      stepsDispatched := outcome.stepsDispatched + (before.length + 1)
      halted := true }
  aborts : w.AbortsAfter registry ctx before step s
  first : ∀ earlier x later, before = earlier ++ x :: later →
    ¬ w.AbortsAfter registry ctx earlier x s

variable {w : World σ} {registry : Registry} {ctx : StepContext} {step : StepRecord}
  {rest : List StepRecord} {outcome : RunOutcome} {s s' : σ}

/-- **A run that does not find the token cancelled** follows the turn of its first step as its policy
says. -/
theorem interpretFrom_of_turn {d : Dispatched} (free : (w.reply s .check).1 = false)
    (turned : w.run (turn registry ctx step) s = (d, s')) (policy : AbortPolicy)
    (rest : List StepRecord) (outcome : RunOutcome) :
    w.log (interpretFrom registry (ctx.under policy) (step :: rest) outcome) s =
        w.log (turn registry ctx step) s ++
          w.log (follow registry (ctx.under policy) rest (outcome.past step) d) s' ∧
      w.run (interpretFrom registry (ctx.under policy) (step :: rest) outcome) s =
        w.run (follow registry (ctx.under policy) rest (outcome.past step) d) s' := by
  rw [(w.interpretFrom_of_free free).1, (w.interpretFrom_of_free free).2, turn_under, turned]
  exact ⟨rfl, rfl⟩

/-- After a turn that was not cancelled, a run that goes on carries the steps that remain out. -/
theorem interpret_continue_cons {halt : Bool} (free : (w.reply s .check).1 = false)
    (ended : w.run (turn registry ctx step) s = (.ended halt, s')) (rest : List StepRecord) :
    w.log (interpret registry (ctx.under .continue) (step :: rest)) s =
        w.log (turn registry ctx step) s ++ w.log (interpret registry (ctx.under .continue) rest) s' ∧
      (w.run (interpret registry (ctx.under .continue) (step :: rest)) s).2 =
        (w.run (interpret registry (ctx.under .continue) rest) s').2 := by
  obtain ⟨log, run⟩ := interpretFrom_of_turn free ended .continue rest {}
  rw [follow_continue] at log run
  obtain ⟨forgets, after⟩ :=
    w.interpretFrom_forgets registry (ctx.under .continue) rest (RunOutcome.past {} step) {} s'
  rw [interpret, log, run, forgets, after]
  exact ⟨rfl, rfl⟩

/-- A step aborts the test after some others exactly if it does so after those that follow the
first. -/
theorem abortsAfter_cons {x : StepRecord} {halt : Bool} {before : List StepRecord}
    (free : (w.reply s .check).1 = false)
    (ended : w.run (turn registry ctx x) s = (.ended halt, s')) :
    w.AbortsAfter registry ctx (x :: before) step s ↔ w.AbortsAfter registry ctx before step s' := by
  rw [AbortsAfter, (interpret_continue_cons free ended before).2]
  rfl

/-- A step aborts the test after no others exactly if its turn ends with a halt. -/
theorem abortsAfter_nil :
    w.AbortsAfter registry ctx [] step s ↔ (w.run (turn registry ctx step) s).1 = .ended true :=
  w.run_turn_eq_ended_true.symm

/-- Runs that find the token cancelled agree. -/
theorem agrees_of_refused (cancelled : (w.reply s .check).1 = true) :
    w.Agrees registry ctx (step :: rest) outcome s where
  log_eq := by rw [(w.interpretFrom_of_refused cancelled).1, (w.interpretFrom_of_refused cancelled).1]
  run_eq := by rw [(w.interpretFrom_of_refused cancelled).2, (w.interpretFrom_of_refused cancelled).2]
  spared before x later _ less := by
    rw [(w.interpretFrom_of_refused cancelled).2] at less
    exact absurd less (Nat.not_lt.2 (Nat.le_add_right _ _))

/-- Runs agree whose first step is cancelled in its turn. -/
theorem agrees_of_interrupted (free : (w.reply s .check).1 = false)
    (interrupted : w.run (turn registry ctx step) s = (.cancelled, s')) :
    w.Agrees registry ctx (step :: rest) outcome s := by
  have goes : ∀ policy,
      w.log (interpretFrom registry (ctx.under policy) (step :: rest) outcome) s =
          w.log (turn registry ctx step) s ∧
        w.run (interpretFrom registry (ctx.under policy) (step :: rest) outcome) s =
          ({ outcome.past step with cancelled := true }, s') := by
    intro policy
    obtain ⟨log, run⟩ := interpretFrom_of_turn free interrupted policy rest outcome
    exact ⟨log.trans (List.append_nil _), run⟩
  constructor
  · rw [(goes _).1, (goes _).1]
  · rw [(goes _).2, (goes _).2]
  · intro before x later split less
    rw [(goes _).2] at less
    obtain rfl : before = [] := List.length_eq_zero_iff.1 (by
      have : outcome.stepsDispatched + before.length < outcome.stepsDispatched + 1 := less
      omega)
    obtain ⟨rfl, rfl⟩ := List.cons.inj split
    rw [abortsAfter_nil, interrupted]
    exact fun h => nomatch h

/-- A run halts at its first step if that step aborts the test. -/
theorem halts_of_aborted (free : (w.reply s .check).1 = false)
    (aborted : w.run (turn registry ctx step) s = (.ended true, s')) :
    w.Halts registry ctx (step :: rest) outcome s [] step rest := by
  have goes := fun policy => interpretFrom_of_turn free aborted policy rest outcome
  have turned : w.run (turnAfter registry ctx [] step) s = (.ended true, s') := aborted
  constructor
  · rfl
  · rw [(goes .haltOnAbort).1, turned]
    dsimp only [follow]
    rw [if_pos (by simp), log_bind]
    exact congrArg (_ ++ ·) (List.append_nil _)
  · rw [(goes .continue).1]
    exact List.prefix_append _ _
  · rw [(goes .haltOnAbort).2]
    dsimp only [follow]
    rw [if_pos (by simp), run_bind]
    rfl
  · rw [abortsAfter_nil, aborted]
  · intro earlier x later split
    simp at split

/-- After a turn that did not abort the test, a run carries the steps that remain out under every
policy. -/
theorem interpretFrom_of_spared (free : (w.reply s .check).1 = false)
    (spared : w.run (turn registry ctx step) s = (.ended false, s')) (policy : AbortPolicy)
    (rest : List StepRecord) (outcome : RunOutcome) :
    w.log (interpretFrom registry (ctx.under policy) (step :: rest) outcome) s =
        w.log (turn registry ctx step) s ++
          w.log (interpretFrom registry (ctx.under policy) rest (outcome.past step)) s' ∧
      w.run (interpretFrom registry (ctx.under policy) (step :: rest) outcome) s =
        w.run (interpretFrom registry (ctx.under policy) rest (outcome.past step)) s' :=
  interpretFrom_of_turn free spared policy rest outcome

/-- A step whose turn ends without a halt does not abort the test. -/
theorem not_abortsAfter_nil (spared : w.run (turn registry ctx step) s = (.ended false, s')) :
    ¬ w.AbortsAfter registry ctx [] step s := by
  rw [abortsAfter_nil, spared]
  exact fun h => nomatch h

/-- **Runs agree** whose first step does not abort the test, if they agree on the steps after it. -/
theorem Agrees.cons (free : (w.reply s .check).1 = false)
    (spared : w.run (turn registry ctx step) s = (.ended false, s'))
    (agrees : w.Agrees registry ctx rest (outcome.past step) s') :
    w.Agrees registry ctx (step :: rest) outcome s := by
  have goes := fun policy => interpretFrom_of_spared free spared policy rest outcome
  constructor
  · rw [(goes _).1, (goes _).1, agrees.log_eq]
  · rw [(goes _).2, (goes _).2, agrees.run_eq]
  · intro before x later split less
    rw [(goes _).2] at less
    cases before with
    | nil =>
      obtain ⟨rfl, -⟩ := List.cons.inj split
      exact not_abortsAfter_nil spared
    | cons y before =>
      obtain ⟨rfl, tail⟩ := List.cons.inj split
      rw [abortsAfter_cons free spared]
      refine agrees.spared before x later tail (lt_of_eq_of_lt ?_ less)
      rw [List.length_cons, RunOutcome.past]
      exact Nat.add_right_comm _ _ _

/-- **A run halts** after a first step that does not abort the test where it halts on the steps
after it. -/
theorem Halts.cons {before later : List StepRecord} {x : StepRecord}
    (free : (w.reply s .check).1 = false)
    (spared : w.run (turn registry ctx step) s = (.ended false, s'))
    (halts : w.Halts registry ctx rest (outcome.past step) s' before x later) :
    w.Halts registry ctx (step :: rest) outcome s (step :: before) x later := by
  have goes := fun policy => interpretFrom_of_spared free spared policy rest outcome
  obtain ⟨log, state⟩ : w.log (turnAfter registry ctx (step :: before) x) s =
      w.log (turn registry ctx step) s ++ w.log (turnAfter registry ctx before x) s' ∧
        (w.run (turnAfter registry ctx (step :: before) x) s).2 =
          (w.run (turnAfter registry ctx before x) s').2 := by
    obtain ⟨log, state⟩ := interpret_continue_cons free spared before
    rw [turnAfter, log_bind, run_bind, log, state, turnAfter, log_bind, run_bind,
      List.append_assoc]
    exact ⟨rfl, rfl⟩
  constructor
  · rw [halts.steps_eq]
    rfl
  · rw [(goes _).1, halts.log_eq, log, state, List.append_assoc]
  · rw [(goes _).1, log]
    exact (List.prefix_append_right_inj _).2 halts.log_prefix
  · rw [(goes _).2, halts.outcome_eq, RunOutcome.past, List.length_cons]
    exact congrArg (RunOutcome.mk _ · _ _) (by rw [Nat.add_right_comm]; rfl)
  · exact (abortsAfter_cons free spared).2 halts.aborts
  · intro earlier y others split
    cases earlier with
    | nil =>
      obtain ⟨rfl, -⟩ := List.cons.inj split
      exact not_abortsAfter_nil spared
    | cons z earlier =>
      obtain ⟨rfl, tail⟩ := List.cons.inj split
      rw [abortsAfter_cons free spared]
      exact halts.first earlier y others tail

/-- **A run that may halt agrees with one that goes on, or it halts** at the first step that aborts
the test. -/
theorem agrees_or_halts (w : World σ) (registry : Registry) (ctx : StepContext)
    (steps : List StepRecord) (outcome : RunOutcome) (s : σ) :
    w.Agrees registry ctx steps outcome s ∨
      ∃ before step rest, w.Halts registry ctx steps outcome s before step rest := by
  induction steps generalizing outcome s with
  | nil => exact .inl ⟨rfl, rfl, fun before step rest split => by simp at split⟩
  | cons step rest ih =>
    cases check : (w.reply s .check).1 with
    | true => exact .inl (agrees_of_refused check)
    | false =>
      cases taken : w.run (turn registry ctx step) s with
      | mk d s' =>
        -- the first turn decides, unless it spares the test; then the steps after it do
        match d with
        | .cancelled => exact .inl (agrees_of_interrupted check taken)
        | .ended true => exact .inr ⟨[], step, rest, halts_of_aborted check taken⟩
        | .ended false =>
          rcases ih (outcome.past step) s' with agrees | ⟨before, x, later, halts⟩
          · exact .inl (agrees.cons check taken)
          · exact .inr ⟨step :: before, x, later, halts.cons check taken⟩

end World

/-! ## Truncation -/

/-- **What a run asks the world for**: everything that it puts, but for what it tells the
observer. -/
def asked {σ : Type} (log : List (Exchange σ)) : List (Exchange σ) :=
  log.filter fun x => x.answered.message?.isNone

/-- **A run that may halt is a truncation** of the run that goes on. -/
structure Truncates {σ : Type} (w : World σ) (registry : Registry) (ctx : StepContext)
    (steps : List StepRecord) (s : σ) : Prop where
  /-- It asks the world for the first things that the other asks for, in the same states, and is
  answered alike. -/
  asked_prefix : asked (w.log (interpret registry (ctx.under .haltOnAbort) steps) s) <+:
    asked (w.log (interpret registry (ctx.under .continue) steps) s)
  /-- It starts the first calls that the other starts. -/
  calls_prefix : (w.transcript (interpret registry (ctx.under .haltOnAbort) steps) s).calls <+:
    (w.transcript (interpret registry (ctx.under .continue) steps) s).calls
  /-- Its events, but for the skipped steps, are the first of the other. -/
  events_prefix :
    (w.events (interpret registry (ctx.under .haltOnAbort) steps) s).filter
        (·.status ≠ .skipped) <+:
      w.events (interpret registry (ctx.under .continue) steps) s
  /-- If it does not halt, the two agree, and no step that is dispatched aborts the test. -/
  agrees : (w.run (interpret registry (ctx.under .haltOnAbort) steps) s).1.halted = false →
    w.Agrees registry ctx steps {} s
  /-- If it halts, it does so at the first step in the list that aborts the test, and that step has
  a handler. -/
  halts : (w.run (interpret registry (ctx.under .haltOnAbort) steps) s).1.halted = true →
    ∃ before step rest, w.Halts registry ctx steps {} s before step rest ∧
      ∃ handler, registry.handler? step = some handler

section

variable {σ : Type} {w : World σ} {registry : Registry} {ctx : StepContext}
  {steps : List StepRecord} {s : σ}

/-- The calls of a log are those of what it asks for. -/
theorem calls_asked (log : List (Exchange σ)) :
    Transcript.calls (log.map Exchange.answered) =
      Transcript.calls ((asked log).map Exchange.answered) := by
  induction log with
  | nil => rfl
  | cons x log ih =>
    have silent : x.answered.message?.isNone = false → x.answered.started? = none := by
      obtain ⟨before, q, a⟩ := x
      cases q with
      | tell m => exact fun _ => rfl
      | _ => exact fun h => nomatch h
    rw [asked, List.filter_cons, List.map_cons, Transcript.calls_cons, ih]
    split
    · rw [List.map_cons, Transcript.calls_cons]
      rfl
    · next told =>
      rw [silent (by simpa only [Bool.not_eq_true] using told)]
      rfl

/-- Skips ask the world for nothing. -/
theorem asked_skipSteps (w : World σ) (rest : List StepRecord) (s : σ) :
    asked (w.log (skipSteps rest) s) = [] := by
  refine List.filter_eq_nil_iff.2 fun x hx => ?_
  have mem : x.answered ∈ Ending.halted.tail rest := by
    rw [← yields_skipSteps (w.yields (skipSteps rest) s)]
    exact List.mem_map_of_mem hx
  obtain ⟨step, -, same⟩ := List.mem_map.1 mem
  rw [← same]
  exact fun h => nomatch h

/-- Skips report nothing else. -/
theorem reports_skipSteps (rest : List StepRecord) :
    (reports (w.log (skipSteps rest) s)).filter (·.status ≠ .skipped) = [] := by
  have tail : reports (w.log (skipSteps rest) s) = Transcript.events (Ending.halted.tail rest) :=
    congrArg Transcript.events (yields_skipSteps (w.yields (skipSteps rest) s))
  rw [tail, Ending.events_tail .halted rest {} rfl]
  exact filter_skips rest

/-- A run that goes on does not halt. -/
theorem not_halted_of_continue :
    (w.run (interpret registry (ctx.under .continue) steps) s).1.halted = false := by
  obtain ⟨legs, ending, course, -, outcome⟩ :=
    yields_interpret (w.yields (interpret registry (ctx.under .continue) steps) s)
  rw [outcome]
  cases ending with
  | halted => exact nomatch (course.halted_iff.1 rfl).1
  | _ => rfl

/-- A run that goes on skips no step. -/
theorem filter_events_continue :
    (w.events (interpret registry (ctx.under .continue) steps) s).filter (·.status ≠ .skipped) =
      w.events (interpret registry (ctx.under .continue) steps) s := by
  obtain ⟨blocks, grammar⟩ := interpret_eventGrammar w registry (ctx.under .continue) steps s
  refine List.filter_eq_self.2 fun e he => ?_
  simpa using grammar.status_ne_skipped not_halted_of_continue he

/-- **A run that agrees with one that goes on** is a truncation of it. -/
theorem World.Agrees.truncates (agrees : w.Agrees registry ctx steps {} s) :
    Truncates w registry ctx steps s := by
  have log : w.log (interpret registry (ctx.under .haltOnAbort) steps) s =
      w.log (interpret registry (ctx.under .continue) steps) s := agrees.log_eq
  have run : w.run (interpret registry (ctx.under .haltOnAbort) steps) s =
      w.run (interpret registry (ctx.under .continue) steps) s := agrees.run_eq
  have transcript : w.transcript (interpret registry (ctx.under .haltOnAbort) steps) s =
      w.transcript (interpret registry (ctx.under .continue) steps) s :=
    congrArg (List.map Exchange.answered) log
  have events : (w.events (interpret registry (ctx.under .haltOnAbort) steps) s).filter
        (·.status ≠ .skipped) =
      w.events (interpret registry (ctx.under .continue) steps) s := by
    rw [World.events, transcript, ← World.events, filter_events_continue]
  refine ⟨log ▸ List.prefix_rfl, transcript ▸ List.prefix_rfl, events ▸ List.prefix_rfl,
    fun _ => agrees, fun halted => ?_⟩
  rw [run, not_halted_of_continue] at halted
  exact nomatch halted

/-- **A run that halts** is a truncation of the run that goes on. -/
theorem World.Halts.truncates {before rest : List StepRecord} {step : StepRecord}
    (halts : w.Halts registry ctx steps {} s before step rest) :
    Truncates w registry ctx steps s := by
  have log := halts.log_eq
  obtain ⟨more, whole⟩ := halts.log_prefix
  -- the skips that follow the last turn ask for nothing, and are left out of the events
  have asks : asked (w.log (interpret registry (ctx.under .haltOnAbort) steps) s) <+:
      asked (w.log (interpret registry (ctx.under .continue) steps) s) := by
    rw [interpret, log, interpret, ← whole, asked, List.filter_append, asked, List.filter_append]
    have none := asked_skipSteps w rest (w.run (turnAfter registry ctx before step) s).2
    rw [asked] at none
    rw [none, List.append_nil]
    exact List.prefix_append _ _
  have halted : (w.run (interpret registry (ctx.under .haltOnAbort) steps) s).1.halted = true :=
    congrArg RunOutcome.halted halts.outcome_eq
  refine ⟨asks, ?_, ?_, fun goesOn => absurd goesOn (by simp [halted]), fun _ => ?_⟩
  · rw [World.transcript, World.transcript, calls_asked, calls_asked (w.log (interpret _ _ _) s)]
    exact (asks.map Exchange.answered).filterMap Answered.started?
  · rw [← filter_events_continue, World.events_eq, World.events_eq, interpret, log, interpret,
      ← whole, reports_append, reports_append, List.filter_append, List.filter_append,
      reports_skipSteps, List.append_nil]
    exact List.prefix_append _ _
  · refine ⟨before, step, rest, halts, ?_⟩
    have aborts := halts.aborts
    rw [World.AbortsAfter, World.handled] at aborts
    cases found : registry.handler? step with
    | some handler => exact ⟨handler, rfl⟩
    | none =>
      rw [found] at aborts
      exact aborts.elim

end

/-- **A run that may halt is a truncation of the run that goes on**, in every world: the abort
policy has no other influence. -/
theorem interpret_truncates {σ : Type} (w : World σ) (registry : Registry) (ctx : StepContext)
    (steps : List StepRecord) (s : σ) : Truncates w registry ctx steps s := by
  rcases w.agrees_or_halts registry ctx steps {} s with agrees | ⟨before, step, rest, halts⟩
  · exact agrees.truncates
  · exact halts.truncates

end Playback
