import Playback.Proofs.Handler.Contract
import Playback.Proofs.Interpreter.Conduct
import Playback.Proofs.Wire.Step

/-!
# The details of reports

What the handlers tell about a completed step, beyond that it is completed, comes back as it is when
it is written on a line and read again.

* `Attempt.Within` — an attempt all of whose requests are of a kind; `within_bind` goes on with what
  the first part can hand back, and with nothing else;
* `Request.IsLegible` — **requests that tell no details but such as come back**;
* `within_handler` — **every handler keeps to them**, and `legible_of_yields_interpret` says so of
  the reports of whole runs through steps.
-/

namespace Playback

open Routine

/-! ## Attempts within a kind of requests -/

namespace Attempt

variable {α β : Type} {P : Request → Prop}

/-- **All requests of an attempt are of a kind.** -/
def Within (P : Request → Prop) (x : Attempt α) : Prop := ∀ t r, Yields x.run t r → t.Within P

/-- An attempt that keeps to a kind is within it. -/
theorem Keeps.attempt_within {x : Attempt α} (h : Keeps P x) : Within P x := fun _ _ => h.within

/-- **A sequence is within a kind** if its first part is, and what follows for each result that the
first part can hand back. -/
theorem within_bind {x : Attempt α} {f : α → Attempt β} (hx : Within P x)
    (hf : ∀ t a, Yields x.run t (.ok a) → Within P (f a)) : Within P (x >>= f) := by
  intro t r h
  rcases yields_run_bind.1 h with ⟨e, h₁, -⟩ | ⟨t₁, a, t₂, rfl, h₁, h₂⟩
  · exact hx _ _ h₁
  · exact (Transcript.within_append P t₁ t₂).2 ⟨hx _ _ h₁, hf t₁ a h₁ t₂ r h₂⟩

/-- Where the first part keeps to the kind its result does not matter. -/
theorem Keeps.within_bind {x : Attempt α} {f : α → Attempt β} (hx : Keeps P x)
    (hf : ∀ a, Within P (f a)) : Within P (x >>= f) :=
  Attempt.within_bind hx.attempt_within fun _ a _ => hf a

/-- To break off asks for nothing. -/
theorem within_throw {e : StepError} : Within P (throw e : Attempt α) := by
  intro t r h
  obtain ⟨rfl, -⟩ := yields_run_throw.1 h
  exact Transcript.within_nil P

end Attempt

/-! ## Details -/

/-- A number is not nested. -/
theorem Json.height_ofFloat (x : Binary64) : (Json.ofFloat x).height = 0 := by
  rw [Json.ofFloat]
  split <;> rfl

/-- The candidate of a step and the number of attempts come back. -/
theorem Located.legible_details (found : Located) : found.details.Legible where
  ne_null := Json.noConfusion
  canonical := by
    have names : ["attempts", "locator"].Pairwise (· < ·) := by decide
    exact Json.canonical_obj names ⟨trivial, found.selector.canonical_encode, trivial⟩
  height_lt := (by decide : 2 < 127)

/-- **Requests that tell no details** but such as come back. -/
def Request.IsLegible : Request → Prop
  | tell (.progress e) => e.Legible
  | _ => True

/-- A report without details tells none. -/
theorem Request.isLegible_report (e : ProgressEvent) (none : e.metadata = none) :
    IsLegible (.tell (.progress e)) := by
  intro details written
  rw [none] at written
  exact nomatch written

/-! ## Handlers -/

namespace Attempt

/-- **A step that fails** is reported without details. -/
theorem within_fail (step : StepRecord) (action : String) (started : Nat) (o : ActionOutcome) :
    Within Request.IsLegible (fail step action started o) :=
  (keeps_fail trivial trivial Request.isLegible_report step action started o).attempt_within

/-- A report with details that come back ends a step. -/
theorem within_report {e : ProgressEvent} (legible : e.Legible) (o : ActionOutcome) :
    Within Request.IsLegible (do emit e; return o) := by
  have tells : Request.IsLegible (.tell (.progress e)) := legible
  exact (keeps_bind (keeps_emit tells) fun _ => keeps_pure o).attempt_within

/-- **A step that is completed** is reported with the details given. -/
theorem within_complete (step : StepRecord) (action : String) (started : Nat)
    (picture : Option String) {details? : Option Json}
    (legible : ∀ details, details? = some details → details.Legible) :
    Within Request.IsLegible (complete step action started picture details?) := by
  refine (keeps_clock trivial).within_bind fun finished => within_report ?_ _
  exact legible

/-- With one piece of details it comes back if they do. -/
theorem within_complete_some (step : StepRecord) (action : String) (started : Nat)
    (picture : Option String) {details : Json} (legible : details.Legible) :
    Within Request.IsLegible (complete step action started picture (some details)) :=
  within_complete step action started picture fun _ same => Option.some.inj same ▸ legible

end Attempt

namespace Handler

open Attempt

/-- Every handler reports first that its step is being processed. -/
theorem keeps_start_legible (step : StepRecord) : Keeps Request.IsLegible (start step) :=
  keeps_start trivial Request.isLegible_report step

/-- Navigation gives no details. -/
theorem within_navigate (ctx : StepContext) (step : StepRecord) :
    Within Request.IsLegible (navigate ctx step) := by
  refine (keeps_start_legible step).within_bind fun started => ?_
  split
  · exact within_throw
  · refine (keeps_guard trivial).within_bind fun answer => ?_
    refine (keeps_orFault answer).within_bind fun _ => ?_
    exact within_complete step _ _ _ fun _ none => nomatch none

/-- A click tells what was clicked. -/
theorem within_click (ctx : StepContext) (step : StepRecord) :
    Within Request.IsLegible (click ctx step) := by
  refine (keeps_start_legible step).within_bind fun started => ?_
  refine (keeps_settle (fun _ _ => trivial) _).within_bind fun _ => ?_
  refine (keeps_resolveWithin (fun _ _ => trivial) _ _ _).within_bind fun resolution => ?_
  cases resolution with
  | notFound attempts => exact within_fail step _ _ _
  | found found =>
    refine (keeps_screenshot trivial).within_bind fun picture => ?_
    refine (keeps_guard trivial).within_bind fun answer => ?_
    refine (keeps_orFault answer).within_bind fun _ => ?_
    refine (keeps_guard trivial).within_bind fun _ => ?_
    exact within_complete_some step _ _ _ found.legible_details

/-- A change tells what was changed. -/
theorem within_change (submit : Bool) (ctx : StepContext) (step : StepRecord) :
    Within Request.IsLegible (change submit ctx step) := by
  refine (keeps_start_legible step).within_bind fun started => ?_
  refine (keeps_settle (fun _ _ => trivial) _).within_bind fun _ => ?_
  refine (keeps_resolveWithin (fun _ _ => trivial) _ _ _).within_bind fun resolution => ?_
  cases resolution with
  | notFound attempts => exact within_fail step _ _ _
  | found found =>
    refine (keeps_screenshot trivial).within_bind fun picture => ?_
    refine (keeps_typeInto (fun _ _ => trivial) _ _).within_bind fun typed => ?_
    refine (keeps_submitted (fun _ _ => trivial) _ _ _).within_bind fun action => ?_
    exact within_complete_some step _ _ _ found.legible_details

/-- The times of a wait come back, if they are finite. -/
theorem legible_waited (actual expected : Binary64) : (Json.obj [
    ("actualMs", Json.ofFloat actual), ("expectedMs", Json.ofFloat expected)]).Legible := by
  refine ⟨Json.noConfusion, ?_, ?_⟩
  · have names : ["actualMs", "expectedMs"].Pairwise (· < ·) := by decide
    exact Json.canonical_obj names
      ⟨Json.canonical_ofFloat actual, Json.canonical_ofFloat expected, trivial⟩
  · simp [Json.height, Json.heightFields, Json.height_ofFloat, Json.maxDepth]

/-- A wait tells how long it was. -/
theorem within_wait (ctx : StepContext) (step : StepRecord) :
    Within Request.IsLegible (wait ctx step) := by
  refine (keeps_start_legible step).within_bind fun started => ?_
  cases waitMs? step.value with
  | none => exact within_throw
  | some ms =>
    dsimp only
    cases Span.ofSeconds? (ms.div (Binary64.ofNat 1000)) with
    | error e => exact within_throw
    | ok span =>
      refine (keeps_guard trivial).within_bind fun _ => ?_
      refine (keeps_clock trivial).within_bind fun finished => within_report ?_ _
      exact fun details written => Option.some.inj written ▸ legible_waited _ _

/-- What an assertion finds is a text, or the state of an element. -/
theorem legible_asserted {kind : AssertKind} {query expected : String} {t : Transcript}
    {actual : Json} {failure : Option String}
    (h : Yields (examine kind query expected).run t (.ok (actual, failure))) (name : String) :
    (Json.obj
      [("actual", actual), ("assertion", .str name), ("expected", .str expected)]).Legible := by
  have found : (∃ s, actual = .str s) ∨ ∃ state : ElementState, actual = state.encode := by
    rw [examine] at h
    split at h
    · obtain ⟨_, answer, _, rfl, -, h⟩ := yields_run_bind_ok h
      obtain ⟨_, s, _, rfl, -, h⟩ := yields_run_bind_ok h
      exact .inl ⟨s, (Prod.mk.inj (Except.ok.inj (yields_run_pure.1 h).2)).1⟩
    · obtain ⟨_, answer, _, rfl, -, h⟩ := yields_run_bind_ok h
      obtain ⟨_, state, _, rfl, -, h⟩ := yields_run_bind_ok h
      exact .inr ⟨state, (Prod.mk.inj (Except.ok.inj (yields_run_pure.1 h).2)).1⟩
  have names : ["actual", "assertion", "expected"].Pairwise (· < ·) := by decide
  rcases found with ⟨s, rfl⟩ | ⟨state, rfl⟩
  · exact ⟨Json.noConfusion, Json.canonical_obj names ⟨trivial, trivial, trivial, trivial⟩,
      (by decide : 1 < 127)⟩
  · have inner : ["clickable", "enabled", "visible"].Pairwise (· < ·) := by decide
    have looks : state.encode.Canonical :=
      Json.canonical_obj inner ⟨trivial, trivial, trivial, trivial⟩
    exact ⟨Json.noConfusion, Json.canonical_obj names ⟨looks, trivial, trivial, trivial⟩,
      (by decide : 2 < 127)⟩

/-- An assertion tells what was found. -/
theorem within_assertion (ctx : StepContext) (step : StepRecord) :
    Within Request.IsLegible (assertion ctx step) := by
  refine (keeps_start_legible step).within_bind fun started => ?_
  dsimp only
  split
  · exact within_fail step _ _ _
  · split
    · exact within_throw
    · refine (keeps_settle (fun _ _ => trivial) _).within_bind fun _ => ?_
      refine (keeps_resolveWithin (fun _ _ => trivial) _ _ _).within_bind fun resolution => ?_
      cases resolution with
      | notFound attempts => exact within_fail step _ _ _
      | found found =>
        refine Attempt.within_bind
          (keeps_examine (fun _ => trivial) (fun _ => trivial) _ _ _).attempt_within
          fun t finding examined => ?_
        obtain ⟨actual, failure⟩ := finding
        cases failure with
        | some message => exact within_fail step _ _ _
        | none => exact within_complete_some step _ _ _ (legible_asserted examined _)

/-- To look a code up and type it tells how long the code was. -/
theorem within_enterCodeOf (ctx : StepContext) (step : StepRecord) (started : Nat)
    (locator username : String) (reference : Instant) :
    Within Request.IsLegible (enterCodeOf ctx step started locator username reference) := by
  refine (Passcode.keeps_acquireWithin trivial (fun _ _ => trivial) _ _ _ _).within_bind
    fun code? => ?_
  cases code? with
  | none => exact within_fail step _ _ _
  | some code =>
    refine (keeps_enterDigits (fun _ _ => trivial) _ _ _).within_bind fun failure => ?_
    cases failure with
    | some message => exact within_fail step _ _ _
    | none =>
      have names : ["digits", "fieldBase"].Pairwise (· < ·) := by decide
      exact within_complete_some step _ _ _ ⟨Json.noConfusion,
        Json.canonical_obj names ⟨trivial, trivial, trivial⟩, (by decide : 1 < 127)⟩

/-- So does a passcode step. -/
theorem within_passcode (ctx : StepContext) (step : StepRecord) :
    Within Request.IsLegible (passcode ctx step) := by
  refine (keeps_start_legible step).within_bind fun started => ?_
  refine (keeps_settle (fun _ _ => trivial) _).within_bind fun _ => ?_
  split
  · exact within_fail step _ _ _
  · refine (keeps_resolveWithin (fun _ _ => trivial) _ _ _).within_bind fun resolution => ?_
    cases resolution with
    | notFound attempts => exact within_fail step _ _ _
    | found found =>
      refine (keeps_guard trivial).within_bind fun answer => ?_
      refine (keeps_orFault answer).within_bind fun _ => ?_
      refine Keeps.within_bind (keeps_request trivial fun _ h => h) fun reference => ?_
      split
      · exact within_fail step _ _ _
      · exact within_enterCodeOf ctx step _ _ _ _

end Handler

/-- **Every handler tells details that come back.** -/
theorem within_handler (a : Action) (ctx : StepContext) (step : StepRecord) :
    Attempt.Within Request.IsLegible (a.handler ctx step) := by
  cases a with
  | navigate => exact Handler.within_navigate ctx step
  | click => exact Handler.within_click ctx step
  | change => exact Handler.within_change false ctx step
  | changeWithEnter => exact Handler.within_change true ctx step
  | wait => exact Handler.within_wait ctx step
  | assert => exact Handler.within_assertion ctx step
  | otp => exact Handler.within_passcode ctx step

/-! ## Runs -/

/-- What is reported in requests that tell such details comes back. -/
theorem Transcript.Within.legible {t : Transcript} (within : t.Within Request.IsLegible)
    {e : ProgressEvent} (reported : e ∈ t.events) : e.Legible := by
  obtain ⟨⟨q, a⟩, mem, event⟩ := List.mem_filterMap.1 reported
  have legible := within _ mem
  cases q with
  | tell m =>
    cases m with
    | progress e' =>
      obtain rfl := Option.some.inj event
      exact legible
    | _ => exact nomatch event
  | _ => exact nomatch event

/-- **The reports of a run through steps** give details that come back. -/
theorem legible_of_yields_interpret {registry : Registry} {ctx : StepContext}
    {steps : List StepRecord} {outcome : RunOutcome} {t : Transcript}
    (h : Yields (interpret registry ctx steps) t outcome) {e : ProgressEvent}
    (reported : e ∈ t.events) : e.Legible := by
  have covers : Request.CoversSteps Request.IsLegible :=
    ⟨trivial, trivial, trivial, Request.isLegible_report, within_handler⟩
  exact (covers.interpret h).legible reported

end Playback
