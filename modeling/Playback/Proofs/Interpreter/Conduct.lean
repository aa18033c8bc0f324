import Playback.Proofs.Interpreter.Course

/-!
# The conduct of a run through steps

What a course asks for, and what its ending says of its last leg.

* `Request.CoversSteps` — **a kind of requests that covers runs through steps**, if it covers the
  handlers and what the interpreter asks for itself; `CoversSteps.interpret` says that it does;
* `Request.IsOfSteps` — **the requests of a run through steps**; `within_of_yields_interpret` says
  that there are no others;
* `Course.halted_iff` — **a run halts** exactly if its last leg aborted the test and the policy is
  to halt;
* `Course.shows_of_cancelled` — **a run is called cancelled** only if it was shown its cancellation.
-/

namespace Playback

open Routine

/-! ## Requests -/

/-- **A kind of requests that covers runs through steps**: all handlers keep to it, and what the
interpreter asks for itself is of the kind. -/
structure Request.CoversSteps (P : Request → Prop) : Prop where
  check : P .check
  clock : P .clock
  screenshot : P (.shielded .screenshot)
  /-- The interpreter reports no details. -/
  report : ∀ e : ProgressEvent, e.metadata = none → P (.tell (.progress e))
  handler : ∀ (a : Action) (ctx : StepContext) (step : StepRecord) (t : Transcript)
    (r : Except StepError ActionOutcome), Yields (a.handler ctx step).run t r → t.Within P

namespace Request.CoversSteps

variable {P : Request → Prop} {registry : Registry} {ctx : StepContext} {steps : List StepRecord}

/-- **A dispatched step** keeps to such a kind. -/
theorem dispatch (covers : CoversSteps P) {step : StepRecord} {t : Transcript} {d : Dispatched}
    (h : DispatchCourse registry ctx step t d) : t.Within P := by
  have failure : ∀ error elapsed picture,
      P (Answered.report (step.failureReport error elapsed picture)).request :=
    fun _ _ _ => covers.report _ rfl
  have handled : ∀ {handler : Handler} {u : Transcript} {r : Except StepError ActionOutcome},
      registry.handler? step = some handler →
      Yields (handler ctx (step.substitute ctx.data)).run u r → u.Within P := by
    intro handler u r found yields
    obtain ⟨a, -, -, rfl⟩ := Registry.handler?_eq_some found
    exact covers.handler a ctx _ u r yields
  cases h with
  | unhandled missing => simp [covers.clock, failure]
  | returned found yields => simp [covers.clock, handled found yields]
  | cancelled found yields => simp [covers.clock, handled found yields, failure]
  | broken found fault yields =>
    simp [covers.clock, covers.screenshot, handled found yields, failure]

/-- The end of a run through steps keeps to it. -/
theorem tail (covers : CoversSteps P) (ending : Ending) (rest : List StepRecord) :
    (ending.tail rest).Within P := by
  cases ending with
  | finished => exact Transcript.within_nil _
  | refused => exact (Transcript.within_cons _ _ _).2 ⟨covers.check, Transcript.within_nil _⟩
  | interrupted => exact Transcript.within_nil _
  | halted =>
    intro x hx
    obtain ⟨step, -, rfl⟩ := List.mem_map.1 hx
    exact covers.report _ rfl

/-- The legs of a course keep to it. -/
theorem legs (covers : CoversSteps P) {legs : List Leg} {ending : Ending}
    (h : Course registry ctx steps legs ending) :
    Transcript.Within P (legs.flatMap Leg.full) := by
  induction h with
  | finished => exact Transcript.within_nil _
  | refused => exact Transcript.within_nil _
  | interrupted dispatched => simp [Leg.full, covers.check, covers.dispatch dispatched]
  | halted dispatched policy => simp [Leg.full, covers.check, covers.dispatch dispatched]
  | next dispatched policy following ih =>
    rw [List.flatMap_cons, Transcript.within_append]
    exact ⟨(Transcript.within_cons _ _ _).2 ⟨covers.check, covers.dispatch dispatched⟩, ih⟩

/-- **A run through steps** keeps to a kind of requests that covers it. -/
theorem interpret (covers : CoversSteps P) {outcome : RunOutcome} {t : Transcript}
    (h : Yields (interpret registry ctx steps) t outcome) : t.Within P := by
  obtain ⟨legs, ending, course, rfl, -⟩ := yields_interpretFrom h
  exact (Transcript.within_append _ _ _).2 ⟨covers.legs course, covers.tail ending _⟩

end Request.CoversSteps

/-- **Requests of a run through steps**: work on the page, and reports of progress. -/
def Request.IsOfSteps (q : Request) : Prop := q.IsWork ∨ ∃ e, q = .tell (.progress e)

/-- A handler keeps to the requests of a run through steps. -/
theorem within_of_yields_handler {a : Action} {ctx : StepContext} {step : StepRecord}
    {t : Transcript} {r : Except StepError ActionOutcome}
    (h : Yields (a.handler ctx step).run t r) : t.Within Request.IsOfSteps := by
  obtain ⟨started, u, rfl, ending⟩ := carries_handler a ctx step t r h
  have work : ∀ {v : Transcript}, v.Within Request.IsWork → v.Within Request.IsOfSteps :=
    fun within => within.mono fun _ => .inl
  have ended : Transcript.Within Request.IsOfSteps u := by
    cases ending with
    | returned within calm reported =>
      rw [Transcript.within_append, Transcript.within_cons]
      exact ⟨work within, .inr ⟨_, rfl⟩, Transcript.within_nil _⟩
    | broken within cancelled_iff => exact work within
  rw [Transcript.within_cons, Transcript.within_cons]
  exact ⟨.inl trivial, .inr ⟨_, rfl⟩, ended⟩

/-- **A run through steps** works on the page and reports progress, and asks for nothing else. -/
theorem within_of_yields_interpret {registry : Registry} {ctx : StepContext}
    {steps : List StepRecord} {outcome : RunOutcome} {t : Transcript}
    (h : Yields (interpret registry ctx steps) t outcome) : t.Within Request.IsOfSteps := by
  have covers : Request.CoversSteps Request.IsOfSteps :=
    ⟨.inl trivial, .inl trivial, .inl rfl, fun e _ => .inr ⟨e, rfl⟩,
      fun _ _ _ _ _ => within_of_yields_handler⟩
  exact covers.interpret h

/-! ## Endings -/

/-- A handler that is cancelled was shown the cancellation. -/
theorem shows_of_yields_handler {a : Action} {ctx : StepContext} {step : StepRecord}
    {t : Transcript} (h : Yields (a.handler ctx step).run t (.error .cancelled)) :
    t.ShowsCancellation := by
  obtain ⟨started, u, rfl, ending⟩ := carries_handler a ctx step t _ h
  cases ending with
  | broken within cancelled_iff =>
    rw [Transcript.showsCancellation_cons, Transcript.showsCancellation_cons]
    exact .inr (.inr (cancelled_iff.1 rfl))

/-- A step that was cancelled was shown the cancellation. -/
theorem DispatchCourse.shows_of_cancelled {registry : Registry} {ctx : StepContext}
    {step : StepRecord} {t : Transcript} (h : DispatchCourse registry ctx step t .cancelled) :
    t.ShowsCancellation := by
  cases h with
  | cancelled found yields =>
    obtain ⟨a, -, -, rfl⟩ := Registry.handler?_eq_some found
    rw [List.cons_append, Transcript.showsCancellation_cons, Transcript.showsCancellation_append]
    exact .inr (.inl (shows_of_yields_handler yields))

namespace Course

variable {registry : Registry} {ctx : StepContext} {steps : List StepRecord} {legs : List Leg}
  {ending : Ending}

/-- **A run halts** exactly if its last leg aborted the test and the policy is to halt. -/
theorem halted_iff (h : Course registry ctx steps legs ending) :
    ending = .halted ↔ ctx.config.abortPolicy = .haltOnAbort ∧
      ∃ l, legs.getLast? = some l ∧ l.ended = .ended true := by
  induction h with
  | finished => simp
  | refused => simp
  | interrupted dispatched => simp
  | halted dispatched policy => simp [policy]
  | @next step rest t halt legs ending dispatched policy following ih =>
    rw [ih]
    cases legs with
    | nil =>
      refine iff_of_false (fun ⟨_, _, last, _⟩ => nomatch last) ?_
      rintro ⟨halting, l, last, ended⟩
      obtain rfl := Option.some.inj last
      exact policy ⟨Dispatched.ended.inj ended, halting⟩
    | cons l legs => rw [List.getLast?_cons_cons]

/-- **A run is called cancelled** only if it was shown its cancellation. -/
theorem shows_of_cancelled (h : Course registry ctx steps legs ending)
    (cancelled : ending = .refused ∨ ending = .interrupted) :
    Transcript.ShowsCancellation
      (legs.flatMap Leg.full ++ ending.tail (steps.drop legs.length)) := by
  rw [Transcript.showsCancellation_append]
  induction h with
  | finished => simp at cancelled
  | refused => exact .inr ((Transcript.showsCancellation_cons _ _).2 (.inl rfl))
  | interrupted dispatched =>
    left
    simpa [Leg.full] using .inr dispatched.shows_of_cancelled
  | halted dispatched policy => simp at cancelled
  | next dispatched policy following ih =>
    refine (ih cancelled).imp (fun shows => ?_) (fun shows => shows)
    rw [List.flatMap_cons, Transcript.showsCancellation_append]
    exact .inr shows

end Course

end Playback
