import Playback.Proofs.Handler.Contract
import Playback.Proofs.Routine.Alike

/-!
# Handlers and calls that decide nothing

Every handler goes on alike whatever becomes of the pictures that it takes and of the phases that it
waits for: only the pictures in its reports differ.

* `Attempt.alike_fail`, `Attempt.alike_complete` — the two ways to end a step;
* `Handler.alike_navigate` to `Handler.alike_passcode` — the handlers one by one;
* `alike_handler` — **every handler is alike**.
-/

namespace Playback

namespace Attempt

variable {α : Type}

/-- Reports that differ in their pictures alone are made alike. -/
theorem alike_emit {e₁ e₂ : ProgressEvent} (same : e₁.unpictured = e₂.unpictured) :
    Alike Eq (emit e₁) (emit e₂) :=
  alike_lift (Routine.alike_tell (congrArg StreamMessage.progress same))

/-- **To end a step as failed is alike**, whatever the picture shows. -/
theorem alike_fail (step : StepRecord) (action : String) (started : Nat) (o : ActionOutcome) :
    Alike Eq (fail step action started o) (fail step action started o) := by
  refine alike_bind (alike_lift Routine.alike_screenshot) fun picture₁ picture₂ _ => ?_
  refine alike_bind_of_keeps (keeps_clock trivial) fun finished => ?_
  exact alike_bind (alike_emit rfl) fun _ _ _ => alike_pure rfl

/-- **To end a step as completed is alike** with different pictures. -/
theorem alike_complete (step : StepRecord) (action : String) (started : Nat)
    (picture₁ picture₂ : Option String) (details : Option Json) :
    Alike Eq (complete step action started picture₁ details)
      (complete step action started picture₂ details) := by
  refine alike_bind_of_keeps (keeps_clock trivial) fun finished => ?_
  exact alike_bind (alike_emit rfl) fun _ _ _ => alike_pure rfl

/-- A step is started alike. -/
theorem alike_start_bind {step : StepRecord} {f : Nat → Attempt α}
    (following : ∀ started, Alike Eq (f started) (f started)) :
    Alike Eq (start step >>= f) (start step >>= f) :=
  alike_bind_of_keeps (keeps_start trivial (fun _ _ => trivial) step) following

/-- After the page has settled a search for an element goes on alike. -/
theorem alike_settled_bind {config : EngineConfig} {primaryMs : Nat} {candidates : List Selector}
    {f : Resolution → Attempt α} (following : ∀ resolution, Alike Eq (f resolution) (f resolution)) :
    Alike Eq (settle config >>= fun _ => resolveWithin config primaryMs candidates >>= f)
      (settle config >>= fun _ => resolveWithin config primaryMs candidates >>= f) :=
  alike_bind (alike_settle config) fun _ _ _ =>
    alike_bind_of_keeps (keeps_resolveWithin (fun _ _ => not_false) _ _ _) following

end Attempt

namespace Handler

open Attempt

/-- Navigation is alike. -/
theorem alike_navigate (ctx : StepContext) (step : StepRecord) :
    Alike Eq (navigate ctx step) (navigate ctx step) := by
  refine alike_start_bind fun started => ?_
  split
  · exact alike_throw _
  · refine alike_bind_of_keeps (keeps_guard not_false) fun answer => ?_
    refine alike_bind_of_keeps (keeps_orFault answer) fun _ => ?_
    exact alike_complete step _ _ _ _ _

/-- A click is alike: its picture shows the page, and decides nothing. -/
theorem alike_click (ctx : StepContext) (step : StepRecord) :
    Alike Eq (click ctx step) (click ctx step) := by
  refine alike_start_bind fun started => alike_settled_bind fun resolution => ?_
  cases resolution with
  | notFound attempts => exact alike_fail step _ _ _
  | found found =>
    refine alike_bind (alike_lift Routine.alike_screenshot) fun picture₁ picture₂ _ => ?_
    refine alike_bind_of_keeps (keeps_guard not_false) fun answer => ?_
    refine alike_bind_of_keeps (keeps_orFault answer) fun _ => ?_
    refine alike_bind_of_keeps (keeps_guard not_false) fun _ => ?_
    exact alike_complete step _ _ _ _ _

/-- A change is alike, with or without Enter. -/
theorem alike_change (submit : Bool) (ctx : StepContext) (step : StepRecord) :
    Alike Eq (change submit ctx step) (change submit ctx step) := by
  refine alike_start_bind fun started => alike_settled_bind fun resolution => ?_
  cases resolution with
  | notFound attempts => exact alike_fail step _ _ _
  | found found =>
    refine alike_bind (alike_lift Routine.alike_screenshot) fun picture₁ picture₂ _ => ?_
    refine alike_bind_of_keeps (keeps_typeInto (fun _ _ => not_false) _ _) fun typed => ?_
    refine alike_bind_of_keeps (keeps_submitted (fun _ _ => not_false) _ _ _) fun action => ?_
    exact alike_complete step _ _ _ _ _

/-- A wait is alike: it makes no call that decides nothing. -/
theorem alike_wait (ctx : StepContext) (step : StepRecord) :
    Alike Eq (wait ctx step) (wait ctx step) := by
  refine alike_start_bind fun started => ?_
  cases waitMs? step.value with
  | none => exact alike_throw _
  | some ms =>
    dsimp only
    cases Span.ofSeconds? (ms.div (Binary64.ofNat 1000)) with
    | error e => exact alike_throw _
    | ok span =>
      refine alike_bind_of_keeps (keeps_guard not_false) fun _ => ?_
      refine alike_bind_of_keeps (keeps_clock trivial) fun finished => ?_
      exact alike_bind (alike_emit rfl) fun _ _ _ => alike_pure rfl

/-- An assertion is alike. -/
theorem alike_assertion (ctx : StepContext) (step : StepRecord) :
    Alike Eq (assertion ctx step) (assertion ctx step) := by
  refine alike_start_bind fun started => ?_
  dsimp only
  split
  · exact alike_fail step _ _ _
  · split
    · exact alike_throw _
    · refine alike_settled_bind fun resolution => ?_
      cases resolution with
      | notFound attempts => exact alike_fail step _ _ _
      | found found =>
        refine alike_bind_of_keeps
          (keeps_examine (fun _ => not_false) (fun _ => not_false) _ _ _) fun finding => ?_
        obtain ⟨actual, failure⟩ := finding
        cases failure with
        | some message => exact alike_fail step _ _ _
        | none => exact alike_complete step _ _ _ _ _

/-- To look a code up and type it is alike. -/
theorem alike_enterCodeOf (ctx : StepContext) (step : StepRecord) (started : Nat)
    (locator username : String) (reference : Instant) :
    Alike Eq (enterCodeOf ctx step started locator username reference)
      (enterCodeOf ctx step started locator username reference) := by
  have acquisition : ∀ c : Call, c.IsAcquisitionCall → Request.IsDecisive (.inside c) := by
    intro c calls
    cases c <;> first | exact not_false | exact calls.elim
  refine alike_bind_of_keeps
    (Passcode.keeps_acquireWithin trivial acquisition _ _ _ _) fun code? => ?_
  cases code? with
  | none => exact alike_fail step _ _ _
  | some code =>
    refine alike_bind_of_keeps (keeps_enterDigits (fun _ _ => not_false) _ _ _) fun failure => ?_
    cases failure with
    | some message => exact alike_fail step _ _ _
    | none => exact alike_complete step _ _ _ _ _

/-- A passcode step is alike. -/
theorem alike_passcode (ctx : StepContext) (step : StepRecord) :
    Alike Eq (passcode ctx step) (passcode ctx step) := by
  refine alike_start_bind fun started => ?_
  refine alike_bind (alike_settle _) fun _ _ _ => ?_
  split
  · exact alike_fail step _ _ _
  · refine alike_bind_of_keeps (keeps_resolveWithin (fun _ _ => not_false) _ _ _)
      fun resolution => ?_
    cases resolution with
    | notFound attempts => exact alike_fail step _ _ _
    | found found =>
      refine alike_bind_of_keeps (keeps_guard not_false) fun answer => ?_
      refine alike_bind_of_keeps (keeps_orFault answer) fun _ => ?_
      refine alike_bind_of_keeps (keeps_request trivial fun _ h => h) fun reference => ?_
      split
      · exact alike_fail step _ _ _
      · exact alike_enterCodeOf ctx step _ _ _ _

end Handler

/-- **Every handler goes on alike**, whatever the calls that decide nothing are answered. -/
theorem alike_handler (a : Action) (ctx : StepContext) (step : StepRecord) :
    Attempt.Alike Eq (a.handler ctx step) (a.handler ctx step) := by
  cases a with
  | navigate => exact Handler.alike_navigate ctx step
  | click => exact Handler.alike_click ctx step
  | change => exact Handler.alike_change false ctx step
  | changeWithEnter => exact Handler.alike_change true ctx step
  | wait => exact Handler.alike_wait ctx step
  | assert => exact Handler.alike_assertion ctx step
  | otp => exact Handler.alike_passcode ctx step

end Playback
