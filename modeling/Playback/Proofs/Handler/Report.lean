import Playback.Proofs.Handler.Discipline

/-!
# How handlers report their steps

Every handler reports that its step is being processed, works, and reports once more, how the step
ended, when it hands an outcome back. When it breaks off it makes no second report.

* `ActionOutcome.Reported` — an event says the same as the outcome that is handed back;
* `StepEnd` — **what follows the first report**: work, then the report of the outcome or a break;
* `Attempt.Ends`, `Attempt.Carries` — attempts whose transcripts are of that form;
* `carries_handler` — **every handler carries its step out so**.
-/

namespace Playback

open Routine

/-- **The ends of a step**: completed, failed so that the test should not go on, or failed because
nothing matched. -/
def ActionOutcome.IsEnd (o : ActionOutcome) : Prop :=
  o = .completed ∨ ∃ error, o = .failed error ∨ o = .unmatched error

/-- **An event reports an outcome** of the step of a number. -/
structure ActionOutcome.Reported (o : ActionOutcome) (index : UInt32) (e : ProgressEvent) :
    Prop where
  /-- The event is about the step. -/
  index_eq : e.indexStep = index
  /-- It has the status of the outcome. -/
  status_eq : e.status = o.status
  /-- It gives the error of the outcome. -/
  error_eq : e.error = o.error
  /-- The outcome is one of the ends of a step. -/
  isEnd : o.IsEnd

/-- An outcome that is an end of a step has the status completed or failed. -/
theorem ActionOutcome.IsEnd.status {o : ActionOutcome} (h : o.IsEnd) :
    o.status = .completed ∨ o.status = .failed := by
  rcases h with rfl | ⟨error, rfl | rfl⟩
  · exact .inl rfl
  · exact .inr rfl
  · exact .inr rfl

/-- **What follows the first report on a step**: requests of a kind, and then either the report of
the outcome, with nothing after it, or a break, which is a cancellation exactly if one was shown. -/
inductive StepEnd (P : Request → Prop) (index : UInt32) :
    Transcript → Except StepError ActionOutcome → Prop where
  | returned {u : Transcript} {e : ProgressEvent} {o : ActionOutcome} (within : u.Within P)
      (calm : ¬ u.ShowsCancellation) (reported : o.Reported index e) :
      StepEnd P index (u ++ [⟨.tell (.progress e), ()⟩]) (.ok o)
  | broken {t : Transcript} {e : StepError} (within : t.Within P)
      (cancelled_iff : e = .cancelled ↔ t.ShowsCancellation) : StepEnd P index t (.error e)

namespace StepEnd

variable {P : Request → Prop} {index : UInt32}

/-- Work before the end of a step is work of the step. -/
theorem prepend {u t : Transcript} {r : Except StepError ActionOutcome} (hu : u.Within P)
    (calm : ¬ u.ShowsCancellation) (h : StepEnd P index t r) : StepEnd P index (u ++ t) r := by
  cases h with
  | returned within calm' reported =>
    rw [← List.append_assoc]
    refine .returned ((Transcript.within_append P _ _).2 ⟨hu, within⟩) ?_ reported
    rw [Transcript.showsCancellation_append, or_iff_right calm]
    exact calm'
  | broken within cancelled_iff =>
    refine .broken ((Transcript.within_append P _ _).2 ⟨hu, within⟩) ?_
    rw [Transcript.showsCancellation_append, or_iff_right calm]
    exact cancelled_iff

end StepEnd

namespace Attempt

variable {α : Type} {P : Request → Prop} {index : UInt32}

/-- **An attempt that ends a step** of a number. -/
def Ends (P : Request → Prop) (index : UInt32) (x : Attempt ActionOutcome) : Prop :=
  ∀ t r, Yields x.run t r → StepEnd P index t r

/-- **Work before an attempt that ends a step** makes an attempt that ends it. -/
theorem ends_bind {x : Attempt α} {f : α → Attempt ActionOutcome} (hx : Keeps P x)
    (hf : ∀ a, Ends P index (f a)) : Ends P index (x >>= f) := by
  intro t r h
  rcases yields_run_bind.1 h with ⟨e, h₁, rfl⟩ | ⟨t₁, a, t₂, rfl, h₁, h₂⟩
  · refine .broken (hx.within h₁) ?_
    rw [← hx.cancelled_iff h₁, Except.error.injEq]
  · have calm : ¬ t₁.ShowsCancellation := fun hc => nomatch (hx.cancelled_iff h₁).2 hc
    exact (hf a t₂ r h₂).prepend (hx.within h₁) calm

/-- A step ends by breaking off, though not as cancelled. -/
theorem ends_throw {e : StepError} (he : e ≠ .cancelled) : Ends P index (throw e) := by
  intro t r h
  obtain ⟨rfl, rfl⟩ := yields_run_throw.1 h
  exact .broken (Transcript.within_nil P) (by simpa using he)

/-- A step ends by reporting an outcome and handing it back. -/
theorem ends_report {e : ProgressEvent} {o : ActionOutcome} (h : o.Reported index e) :
    Ends P index (do emit e; return o) := by
  intro t r hy
  rw [emit, Routine.emit, Routine.tell, yields_run_request_bind] at hy
  obtain ⟨x, u, rfl, hu⟩ := hy
  obtain ⟨rfl, rfl⟩ := yields_run_pure.1 hu
  exact .returned (u := []) (Transcript.within_nil P) Transcript.not_showsCancellation_nil h

/-- **`fail` ends a step**: a picture, the clock, and the report of the failure. -/
theorem ends_fail (hs : P (.shielded .screenshot)) (hc : P .clock) (step : StepRecord)
    (action : String) (started : Nat) {o : ActionOutcome}
    (ho : ∃ error, o = .failed error ∨ o = .unmatched error) :
    Ends P step.indexStep (fail step action started o) := by
  refine ends_bind (keeps_screenshot hs) fun picture => ?_
  refine ends_bind (keeps_clock hc) fun finished => ends_report ?_
  obtain ⟨error, rfl | rfl⟩ := ho
  · exact ⟨rfl, rfl, rfl, .inr ⟨error, .inl rfl⟩⟩
  · exact ⟨rfl, rfl, rfl, .inr ⟨error, .inr rfl⟩⟩

/-- **`complete` ends a step**: the clock, and the report of the completion. -/
theorem ends_complete (hc : P .clock) (step : StepRecord) (action : String) (started : Nat)
    (picture : Option String) (details : Option Json) :
    Ends P step.indexStep (complete step action started picture details) :=
  ends_bind (keeps_clock hc) fun _ => ends_report ⟨rfl, rfl, rfl, .inl rfl⟩

/-- **A step is started** by a reading of the clock and the report that it is being processed. -/
theorem yields_start_bind {step : StepRecord} {f : Nat → Attempt α} {t : Transcript}
    {r : Except StepError α} (h : Yields (start step >>= f).run t r) :
    ∃ started u, t = ⟨.clock, started⟩ ::
        ⟨.tell (.progress (.processing step.indexStep step.label)), ()⟩ :: u ∧
      Yields (f started).run u r := by
  have sequence : start step >>= f = (do
      let started ← ExceptT.lift (request .clock)
      ExceptT.lift (request (.tell (.progress (.processing step.indexStep step.label))))
      f started) := rfl
  rw [sequence, yields_run_request_bind] at h
  obtain ⟨started, u, rfl, hu⟩ := h
  rw [yields_run_request_bind] at hu
  obtain ⟨_, v, rfl, hv⟩ := hu
  exact ⟨started, v, rfl, hv⟩

/-- To start a step keeps to requests of a kind, if both of its requests are of it. -/
theorem within_started {P : Request → Prop} {step : StepRecord} {started : Nat} {t : Transcript}
    (hc : P .clock) (ht : P (.tell (.progress (.processing step.indexStep step.label))))
    (h : t.Within P) : Transcript.Within P (⟨.clock, started⟩ ::
      ⟨.tell (.progress (.processing step.indexStep step.label)), ()⟩ :: t) :=
  (Transcript.within_cons P _ _).2 ⟨hc, (Transcript.within_cons P _ _).2 ⟨ht, h⟩⟩

/-- **An attempt that carries a step out**: it notes the time, reports that the step is being
processed, and ends the step by work on the page. -/
def Carries (step : StepRecord) (x : Attempt ActionOutcome) : Prop :=
  ∀ t r, Yields x.run t r → ∃ started u,
    t = ⟨.clock, started⟩ ::
        ⟨.tell (.progress (.processing step.indexStep step.label)), ()⟩ :: u ∧
      StepEnd Request.IsWork step.indexStep u r

/-- An attempt that starts a step and ends it carries it out. -/
theorem carries_start {step : StepRecord} {f : Nat → Attempt ActionOutcome}
    (h : ∀ started, Ends Request.IsWork step.indexStep (f started)) :
    Carries step (start step >>= f) := by
  intro t r hy
  obtain ⟨started, u, rfl, hu⟩ := yields_start_bind hy
  exact ⟨started, u, rfl, h started u r hu⟩

end Attempt

/-! ## The handlers -/

namespace Handler

open Attempt

/-- Navigation carries its step out. -/
theorem carries_navigate (ctx : StepContext) (step : StepRecord) :
    Carries step (navigate ctx step) := by
  refine carries_start fun started => ?_
  split
  · exact ends_throw fun h => nomatch h
  · refine ends_bind (keeps_guard trivial) fun answer => ?_
    refine ends_bind (keeps_orFault answer) fun _ => ?_
    exact ends_complete trivial step _ _ _ _

/-- A click carries its step out. -/
theorem carries_click (ctx : StepContext) (step : StepRecord) : Carries step (click ctx step) := by
  refine carries_start fun started => ?_
  refine ends_bind (keeps_settle (fun _ _ => trivial) _) fun _ => ?_
  refine ends_bind (keeps_resolveWithin (fun _ _ => trivial) _ _ _) fun resolution => ?_
  cases resolution with
  | notFound attempts => exact ends_fail Request.isWork_screenshot trivial step _ _ ⟨_, .inl rfl⟩
  | found found =>
    refine ends_bind (keeps_screenshot Request.isWork_screenshot) fun picture => ?_
    refine ends_bind (keeps_guard trivial) fun answer => ?_
    refine ends_bind (keeps_orFault answer) fun _ => ?_
    refine ends_bind (keeps_guard trivial) fun _ => ?_
    exact ends_complete trivial step _ _ _ _

/-- A change, with or without Enter, carries its step out. -/
theorem carries_change (submit : Bool) (ctx : StepContext) (step : StepRecord) :
    Carries step (change submit ctx step) := by
  refine carries_start fun started => ?_
  refine ends_bind (keeps_settle (fun _ _ => trivial) _) fun _ => ?_
  refine ends_bind (keeps_resolveWithin (fun _ _ => trivial) _ _ _) fun resolution => ?_
  cases resolution with
  | notFound attempts => exact ends_fail Request.isWork_screenshot trivial step _ _ ⟨_, .inl rfl⟩
  | found found =>
    refine ends_bind (keeps_screenshot Request.isWork_screenshot) fun picture => ?_
    refine ends_bind (keeps_typeInto (fun _ _ => trivial) _ _) fun typed => ?_
    refine ends_bind (keeps_submitted (fun _ _ => trivial) _ _ _) fun action => ?_
    exact ends_complete trivial step _ _ _ _

/-- A pause ends a step, also when it has no span. -/
theorem ends_pauseFor (step : StepRecord) (started : Nat) (ms : Binary64)
    (span? : Except Span.RangeError Nat) :
    Ends Request.IsWork step.indexStep (pauseFor step started ms span?) := by
  cases span? with
  | error e => exact ends_throw fun h => nomatch h
  | ok span =>
    refine ends_bind (keeps_guard trivial) fun _ => ?_
    exact ends_bind (keeps_clock trivial) fun _ => ends_report ⟨rfl, rfl, rfl, .inl rfl⟩

/-- A wait carries its step out. -/
theorem carries_wait (ctx : StepContext) (step : StepRecord) : Carries step (wait ctx step) := by
  refine carries_start fun started => ?_
  cases waitMs? step.value with
  | none => exact ends_throw fun h => nomatch h
  | some ms => exact ends_pauseFor step started ms _

/-- An assertion carries its step out. -/
theorem carries_assertion (ctx : StepContext) (step : StepRecord) :
    Carries step (assertion ctx step) := by
  refine carries_start fun started => ?_
  dsimp only
  split
  · exact ends_fail Request.isWork_screenshot trivial step _ _ ⟨_, .inl rfl⟩
  · split
    · exact ends_throw fun h => nomatch h
    · refine ends_bind (keeps_settle (fun _ _ => trivial) _) fun _ => ?_
      refine ends_bind (keeps_resolveWithin (fun _ _ => trivial) _ _ _) fun resolution => ?_
      cases resolution with
      | notFound attempts =>
        exact ends_fail Request.isWork_screenshot trivial step _ _ ⟨_, .inr rfl⟩
      | found found =>
        refine ends_bind (keeps_examine (fun _ => trivial) (fun _ => trivial) _ _ _)
          fun finding => ?_
        obtain ⟨actual, failure⟩ := finding
        cases failure with
        | some message => exact ends_fail Request.isWork_screenshot trivial step _ _ ⟨_, .inl rfl⟩
        | none => exact ends_complete trivial step _ _ _ _

/-- To look a code up and type it ends a passcode step. -/
theorem ends_enterCodeOf (ctx : StepContext) (step : StepRecord) (started : Nat)
    (locator username : String) (reference : Instant) :
    Ends Request.IsWork step.indexStep
      (enterCodeOf ctx step started locator username reference) := by
  refine ends_bind
    (Passcode.keeps_acquireWithin trivial (fun _ h => h) _ _ _ _) fun code? => ?_
  cases code? with
  | none => exact ends_fail Request.isWork_screenshot trivial step _ _ ⟨_, .inl rfl⟩
  | some code =>
    refine ends_bind (keeps_enterDigits (fun _ _ => trivial) _ _ _) fun failure => ?_
    cases failure with
    | some message => exact ends_fail Request.isWork_screenshot trivial step _ _ ⟨_, .inl rfl⟩
    | none => exact ends_complete trivial step _ _ _ _

/-- A passcode step is carried out. -/
theorem carries_passcode (ctx : StepContext) (step : StepRecord) :
    Carries step (passcode ctx step) := by
  refine carries_start fun started => ?_
  refine ends_bind (keeps_settle (fun _ _ => trivial) _) fun _ => ?_
  split
  · exact ends_fail Request.isWork_screenshot trivial step _ _ ⟨_, .inl rfl⟩
  · refine ends_bind (keeps_resolveWithin (fun _ _ => trivial) _ _ _) fun resolution => ?_
    cases resolution with
    | notFound attempts => exact ends_fail Request.isWork_screenshot trivial step _ _ ⟨_, .inl rfl⟩
    | found found =>
      refine ends_bind (keeps_guard trivial) fun answer => ?_
      refine ends_bind (keeps_orFault answer) fun _ => ?_
      refine ends_bind (keeps_request trivial fun _ h => h) fun reference => ?_
      split
      · exact ends_fail Request.isWork_screenshot trivial step _ _ ⟨_, .inl rfl⟩
      · exact ends_enterCodeOf ctx step _ _ _ _

end Handler

/-- **Every handler carries its step out**: one report at the beginning, work on the page, and one
report at the end unless the handler breaks off. -/
theorem carries_handler (a : Action) (ctx : StepContext) (step : StepRecord) :
    Attempt.Carries step (a.handler ctx step) := by
  cases a with
  | navigate => exact Handler.carries_navigate ctx step
  | click => exact Handler.carries_click ctx step
  | change => exact Handler.carries_change false ctx step
  | changeWithEnter => exact Handler.carries_change true ctx step
  | wait => exact Handler.carries_wait ctx step
  | assert => exact Handler.carries_assertion ctx step
  | otp => exact Handler.carries_passcode ctx step

end Playback
