import Playback.Proofs.Handler.Search
import Playback.Proofs.Interpreter.Grammar

/-!
# The contract of the handlers

What every handler owes to the interpreter and to the observer, whatever step it is given.

* `Attempt.Spares` — an attempt that hands back no fatal outcome; all handlers but that of
  assertions are such, and `Handler.unseen_of_fatal` is about the one that is not;
* `HandlerContract`, `handler_contract` — **the contract, and that every handler keeps it**.
-/

namespace Playback

open Routine

namespace Attempt

/-! ## Outcomes that are not fatal -/

/-- **An attempt that hands back no fatal outcome.** -/
def Spares (x : Attempt ActionOutcome) : Prop :=
  ∀ t o, Yields x.run t (.ok o) → o.fatal = false

/-- An attempt that hands back no fatal outcome does not come to one. -/
theorem Spares.not_yields {x : Attempt ActionOutcome} {t : Transcript} {o : ActionOutcome}
    (h : Spares x) (fatal : o.fatal = true) : ¬ Yields x.run t (.ok o) :=
  fun yields => Bool.false_ne_true ((h t o yields).symm.trans fatal)

variable {α : Type}

/-- Whatever comes before, the end of a sequence decides. -/
theorem spares_bind {x : Attempt α} {f : α → Attempt ActionOutcome} (h : ∀ a, Spares (f a)) :
    Spares (x >>= f) := by
  intro t o hy
  rcases yields_run_bind.1 hy with ⟨e, -, broken⟩ | ⟨t₁, a, t₂, rfl, -, h₂⟩
  · exact nomatch broken
  · exact h a t₂ o h₂

/-- To break off hands nothing back. -/
theorem spares_throw {e : StepError} : Spares (throw e) :=
  fun _ _ h => nomatch (yields_run_throw.1 h).2

/-- An outcome that is not fatal is handed back. -/
theorem spares_pure {o : ActionOutcome} (h : o.fatal = false) : Spares (pure o) := by
  intro t o' hy
  rw [Except.ok.inj (yields_run_pure.1 hy).2]
  exact h

/-- A failure hands back the outcome that it is given. -/
theorem spares_fail {step : StepRecord} {action error : String} {started : Nat} :
    Spares (fail step action started (.failed error)) :=
  spares_bind fun _ => spares_bind fun _ => spares_bind fun _ => spares_pure rfl

/-- A completion is not fatal. -/
theorem spares_complete {step : StepRecord} {action : String} {started : Nat}
    {picture : Option String} {details : Option Json} :
    Spares (complete step action started picture details) :=
  spares_bind fun _ => spares_bind fun _ => spares_pure rfl

end Attempt

namespace Handler

open Attempt

/-- Navigation is never fatal. -/
theorem spares_navigate (ctx : StepContext) (step : StepRecord) : Spares (navigate ctx step) := by
  refine spares_bind fun started => ?_
  split
  · exact spares_throw
  · exact spares_bind fun _ => spares_bind fun _ => spares_complete

/-- A click is never fatal. -/
theorem spares_click (ctx : StepContext) (step : StepRecord) : Spares (click ctx step) := by
  refine spares_bind fun started => spares_bind fun _ => spares_bind fun resolution => ?_
  cases resolution with
  | notFound attempts => exact spares_fail
  | found found =>
    exact spares_bind fun _ => spares_bind fun _ => spares_bind fun _ => spares_bind fun _ =>
      spares_complete

/-- A change is never fatal. -/
theorem spares_change (submit : Bool) (ctx : StepContext) (step : StepRecord) :
    Spares (change submit ctx step) := by
  refine spares_bind fun started => spares_bind fun _ => spares_bind fun resolution => ?_
  cases resolution with
  | notFound attempts => exact spares_fail
  | found found =>
    exact spares_bind fun _ => spares_bind fun _ => spares_bind fun _ => spares_complete

/-- A wait is never fatal. -/
theorem spares_wait (ctx : StepContext) (step : StepRecord) : Spares (wait ctx step) := by
  refine spares_bind fun started => ?_
  cases waitMs? step.value with
  | none => exact spares_throw
  | some ms =>
    dsimp only
    cases Span.ofSeconds? (ms.div (Binary64.ofNat 1000)) with
    | error e => exact spares_throw
    | ok span => exact spares_bind fun _ => spares_bind fun _ => spares_bind fun _ => spares_pure rfl

/-- To look a code up and type it is never fatal. -/
theorem spares_enterCodeOf (ctx : StepContext) (step : StepRecord) (started : Nat)
    (locator username : String) (reference : Instant) :
    Spares (enterCodeOf ctx step started locator username reference) := by
  refine spares_bind fun code? => ?_
  cases code? with
  | none => exact spares_fail
  | some code =>
    refine spares_bind fun failure => ?_
    cases failure with
    | some message => exact spares_fail
    | none => exact spares_complete

/-- A passcode step is never fatal. -/
theorem spares_passcode (ctx : StepContext) (step : StepRecord) : Spares (passcode ctx step) := by
  refine spares_bind fun started => spares_bind fun _ => ?_
  split
  · exact spares_fail
  · refine spares_bind fun resolution => ?_
    cases resolution with
    | notFound attempts => exact spares_fail
    | found found =>
      refine spares_bind fun _ => spares_bind fun _ => spares_bind fun reference => ?_
      split
      · exact spares_fail
      · exact spares_enterCodeOf ctx step _ _ _ _

end Handler

/-! ## Assertions -/

/-- **The assertion of a step is valid**: its name is known, and it has a text to compare with if it
compares texts. -/
def StepRecord.AssertsValidly (step : StepRecord) : Prop :=
  ∃ kind, AssertKind.ofName? (step.typeAssert.getD "") = some kind ∧
    (kind.comparesText = true → step.valueToAssert.isSome = true)

namespace Attempt

variable {α β : Type} {P : Request → Prop}

/-- Of a sequence that returns, all parts return. -/
theorem yields_run_bind_ok {x : Attempt α} {f : α → Attempt β} {t : Transcript} {b : β}
    (h : Yields (x >>= f).run t (.ok b)) :
    ∃ t₁ a t₂, t = t₁ ++ t₂ ∧ Yields x.run t₁ (.ok a) ∧ Yields (f a).run t₂ (.ok b) := by
  rcases yields_run_bind.1 h with ⟨e, -, broken⟩ | parts
  · exact nomatch broken
  · exact parts

/-- A report is one request. -/
theorem keeps_emit {e : ProgressEvent} (h : P (.tell (.progress e))) : Keeps P (emit e) :=
  keeps_request h fun _ shows => shows

/-- A step is started by a reading of the clock and a report. -/
theorem keeps_start (hc : P .clock)
    (ht : ∀ e : ProgressEvent, e.metadata = none → P (.tell (.progress e))) (step : StepRecord) :
    Keeps P (start step) :=
  keeps_bind (keeps_clock hc) fun _ => keeps_bind (keeps_emit (ht _ rfl)) fun _ => keeps_pure _

/-- A step that is ended as failed hands its outcome back. -/
theorem eq_ok_of_yields_fail {step : StepRecord} {action : String} {started : Nat}
    {o : ActionOutcome} {t : Transcript} {r : Except StepError ActionOutcome}
    (h : Yields (fail step action started o).run t r) : r = .ok o := by
  obtain ⟨t₁, picture, t₂, rfl, -, h₂⟩ := yields_run_lift_bind.1 h
  obtain ⟨finished, t₃, rfl, h₃⟩ := yields_run_request_bind.1 h₂
  obtain ⟨_, t₄, rfl, h₄⟩ := yields_run_request_bind.1 h₃
  exact (yields_run_pure.1 h₄).2

/-- A step that is completed hands that back. -/
theorem eq_ok_of_yields_complete {step : StepRecord} {action : String} {started : Nat}
    {picture : Option String} {details : Option Json} {t : Transcript}
    {r : Except StepError ActionOutcome}
    (h : Yields (complete step action started picture details).run t r) : r = .ok .completed := by
  obtain ⟨finished, t₁, rfl, h₁⟩ := yields_run_request_bind.1 h
  obtain ⟨_, t₂, rfl, h₂⟩ := yields_run_request_bind.1 h₁
  exact (yields_run_pure.1 h₂).2

/-- It is ended as failed by a picture, a reading of the clock and a report. -/
theorem keeps_fail (hs : P (.shielded .screenshot)) (hc : P .clock)
    (ht : ∀ e : ProgressEvent, e.metadata = none → P (.tell (.progress e))) (step : StepRecord)
    (action : String) (started : Nat) (o : ActionOutcome) : Keeps P (fail step action started o) :=
  keeps_bind (keeps_screenshot hs) fun _ => keeps_bind (keeps_clock hc) fun _ =>
    keeps_bind (keeps_emit (ht _ rfl)) fun _ => keeps_pure _

/-- It is completed by a reading of the clock and a report. -/
theorem keeps_complete {step : StepRecord} {action : String} {started : Nat}
    {picture : Option String} {details : Option Json} (hc : P .clock)
    (ht : ∀ e : ProgressEvent, e.screenshot = picture → e.metadata = details →
      P (.tell (.progress e))) : Keeps P (complete step action started picture details) :=
  keeps_bind (keeps_clock hc) fun _ => keeps_bind (keeps_emit (ht _ rfl rfl)) fun _ => keeps_pure _

end Attempt

namespace Handler

open Attempt

/-- **An assertion is fatal** only if it is valid and none of the candidates of its step became
visible. -/
theorem unseen_of_fatal {ctx : StepContext} {step : StepRecord} {t : Transcript} {o : ActionOutcome}
    (h : Yields (assertion ctx step).run t (.ok o)) (fatal : o.fatal = true) :
    step.AssertsValidly ∧ t.Unseen step.selectors := by
  obtain ⟨t₁, started, t₂, rfl, h₁, h₂⟩ := yields_run_bind_ok h
  dsimp only at h₂
  cases named : AssertKind.ofName? (step.typeAssert.getD "") with
  | none =>
    simp only [named] at h₂
    exact absurd h₂ (spares_fail.not_yields fatal)
  | some kind =>
    simp only [named] at h₂
    by_cases lacking : (kind.comparesText && step.valueToAssert.isNone) = true
    · rw [if_pos lacking] at h₂
      exact absurd h₂ (spares_throw.not_yields fatal)
    · rw [if_neg lacking] at h₂
      obtain ⟨t₃, _, t₄, rfl, h₃, h₄⟩ := yields_run_bind_ok h₂
      obtain ⟨t₅, resolution, t₆, rfl, h₅, h₆⟩ := yields_run_bind_ok h₄
      cases resolution with
      | found found =>
        refine absurd h₆ (Spares.not_yields (spares_bind fun finding => ?_) fatal)
        obtain ⟨actual, failure⟩ := finding
        cases failure with
        | some message => exact spares_fail
        | none => exact spares_complete
      | notFound attempts =>
        refine ⟨⟨kind, named, fun compares => ?_⟩, ?_⟩
        · simpa [compares, Option.isNone_iff_eq_none, Option.isSome_iff_ne_none] using lacking
        · -- only the search waits for candidates
          have clock : Request.SeeksNone .clock := fun _ _ h => nomatch h
          have report : ∀ e : ProgressEvent, e.metadata = none →
              Request.SeeksNone (.tell (.progress e)) := fun _ _ _ _ h => nomatch h
          have before := ((keeps_start clock report step).within h₁).unseen
          have settled := ((keeps_settle (fun _ _ _ _ h => nomatch h) _).within h₃).unseen
          have after := ((keeps_fail (fun _ _ h => nomatch h) clock report _ _ _ _).within h₆).unseen
          have missed : t₅.Unseen step.selectors := by
            cases searched_of_yields h₅ with
            | notFound _ missed_all => exact unseen_of_misses missed_all
          have whole := before.append (settled.append (missed.append after))
          simpa using whole

end Handler

/-! ## The contract -/

/-- **An outcome is sound**: it is a completion without an error, or a failure that aborts the test
with one. -/
def ActionOutcome.IsSound (o : ActionOutcome) : Prop :=
  (o.status = .completed ∧ o.abortTest = false ∧ o.fatal = false ∧ o.error = none) ∨
    (o.status = .failed ∧ o.abortTest = true ∧ o.error.isSome = true)

/-- The ends of a step are sound. -/
theorem ActionOutcome.IsEnd.isSound {o : ActionOutcome} (h : o.IsEnd) : o.IsSound := by
  rcases h with rfl | ⟨error, rfl | rfl⟩
  · exact .inl ⟨rfl, rfl, rfl, rfl⟩
  · exact .inr ⟨rfl, rfl, rfl⟩
  · exact .inr ⟨rfl, rfl, rfl⟩

/-- **What a handler owes** when it is given a step: along its requests with their answers, with
what it comes to. -/
structure HandlerContract (a : Action) (step : StepRecord) (t : Transcript)
    (result : Except StepError ActionOutcome) : Prop where
  /-- Before it starts any call, the handler reports that the step is being processed. -/
  announced : ∃ before after,
    t = before ++ .report (.processing step.indexStep step.label) :: after ∧
      Transcript.calls before = []
  /-- If it hands an outcome back, it reports once more, at the very end; the report is about the
  step, and says what the outcome says. -/
  returned : ∀ o, result = .ok o → ∃ before e, t = before ++ [.report e] ∧
    Transcript.events before = [.processing step.indexStep step.label] ∧
    e.indexStep = step.indexStep ∧ e.status = o.status ∧ e.error = o.error
  /-- The outcome is sound. -/
  sound : ∀ o, result = .ok o → o.IsSound
  /-- It is fatal only for a valid assertion none of whose candidates became visible. -/
  fatal_only : ∀ o, result = .ok o → o.fatal = true →
    a = .assert ∧ step.AssertsValidly ∧ t.Unseen step.selectors
  /-- If the handler breaks off, it makes no other report. -/
  broken : ∀ e, result = .error e → t.events = [.processing step.indexStep step.label]

/-- **A fatal outcome** is that of a valid assertion none of whose candidates became visible. -/
theorem unseen_of_handler_fatal {a : Action} {ctx : StepContext} {step : StepRecord}
    {t : Transcript} {o : ActionOutcome} (h : Yields (a.handler ctx step).run t (.ok o))
    (fatal : o.fatal = true) : a = .assert ∧ step.AssertsValidly ∧ t.Unseen step.selectors := by
  cases a with
  | navigate => exact absurd h ((Handler.spares_navigate ctx step).not_yields fatal)
  | click => exact absurd h ((Handler.spares_click ctx step).not_yields fatal)
  | change => exact absurd h ((Handler.spares_change false ctx step).not_yields fatal)
  | changeWithEnter => exact absurd h ((Handler.spares_change true ctx step).not_yields fatal)
  | wait => exact absurd h ((Handler.spares_wait ctx step).not_yields fatal)
  | assert => exact ⟨rfl, Handler.unseen_of_fatal h fatal⟩
  | otp => exact absurd h ((Handler.spares_passcode ctx step).not_yields fatal)

/-- **Every handler keeps its contract**, in every world and for every step. -/
theorem handler_contract {σ : Type} (w : World σ) (a : Action) (ctx : StepContext)
    (step : StepRecord) (s : σ) :
    HandlerContract a step (w.transcript (a.handler ctx step).run s)
      (w.run (a.handler ctx step).run s).1 := by
  have yields := w.yields (a.handler ctx step).run s
  generalize w.transcript (a.handler ctx step).run s = t at yields ⊢
  generalize (w.run (a.handler ctx step).run s).1 = result at yields ⊢
  obtain ⟨started, u, rfl, ending⟩ := carries_handler a ctx step t result yields
  have told : ∀ v : Transcript, v.Within Request.IsWork → Transcript.events
      (⟨.clock, started⟩ :: .report (.processing step.indexStep step.label) :: v) =
        [.processing step.indexStep step.label] :=
    fun v within => congrArg (_ :: ·) within.events_eq_nil
  refine ⟨⟨[⟨.clock, started⟩], u, rfl, rfl⟩, ?_, ?_, ?_, ?_⟩
  · rintro o rfl
    cases ending with
    | @returned v e _ within calm reported =>
      exact ⟨_ :: _ :: v, e, rfl, told v within, reported.index_eq, reported.status_eq,
        reported.error_eq⟩
  · rintro o rfl
    cases ending with
    | returned within calm reported => exact reported.isEnd.isSound
  · rintro o rfl fatal
    exact unseen_of_handler_fatal yields fatal
  · rintro e rfl
    cases ending with
    | broken within cancelled_iff => exact told u within

end Playback
