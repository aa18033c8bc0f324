import Playback.Proofs.Handler.Contract
import Playback.Proofs.Interpreter.Course

/-!
# The pictures of reports

The picture in a report is the last one that was taken since the report before, and there is none
where none was taken, where it could not be taken, and where the run was cancelled since.

* `Answered.pictureAfter`, `Transcript.pictures` — **the picture at hand** as requests go by, and the
  pictures that the reports of a transcript should bear;
* `Transcript.Pictured` — a transcript whose reports bear them;
* `Attempt.Depicts` — an attempt that ends a step with the picture at hand; `depicts_handler` says
  that all handlers are such;
* `Transcript.SelfPictured` — **a part of a run whose reports bear the pictures taken in it**;
  `pictured_dispatch` and `pictured_interpretFrom` say that steps and lists of steps are such.
-/

namespace Playback

open Routine

/-! ## The picture at hand -/

/-- **The picture at hand** after a request: that which the request took, none after a report or once
the run is seen to be cancelled, and otherwise the one before. -/
def Answered.pictureAfter (picture : Option String) : Answered → Option String
  | ⟨.shielded .screenshot, shot⟩ => pictureOf shot
  | ⟨.tell (.progress _), _⟩ => none
  | ⟨.check, true⟩ => none
  | ⟨.guarded _, .refused⟩ => none
  | ⟨.guarded _, .interrupted⟩ => none
  | ⟨.inside _, none⟩ => none
  | _ => picture

namespace Transcript

/-- The picture at hand after some requests. -/
def pictureAfter (picture : Option String) (t : Transcript) : Option String :=
  t.foldl Answered.pictureAfter picture

/-- **The pictures at hand at the reports** of a transcript. -/
def pictures (picture : Option String) : Transcript → List (Option String)
  | [] => []
  | x :: t => (x.event?.toList.map fun _ => picture) ++ pictures (x.pictureAfter picture) t

/-- **The reports of a transcript bear the pictures at hand.** -/
def Pictured (picture : Option String) (t : Transcript) : Prop :=
  t.events.map (·.screenshot) = t.pictures picture

variable {picture : Option String} {t u : Transcript}

/-- The pictures of parts come one after the other. -/
theorem pictures_append (t u : Transcript) (picture : Option String) :
    (t ++ u).pictures picture = t.pictures picture ++ u.pictures (t.pictureAfter picture) := by
  induction t generalizing picture with
  | nil => rfl
  | cons x t ih =>
    rw [List.cons_append, pictures, pictures, ih, List.append_assoc]
    rfl

/-- The picture after parts is that after the last. -/
theorem pictureAfter_append (t u : Transcript) (picture : Option String) :
    (t ++ u).pictureAfter picture = u.pictureAfter (t.pictureAfter picture) :=
  List.foldl_append

/-- **A transcript is pictured in parts.** -/
theorem Pictured.append (first : t.Pictured picture) (second : u.Pictured (t.pictureAfter picture)) :
    (t ++ u).Pictured picture := by
  rw [Pictured, events_append, List.map_append, pictures_append, first, second]

end Transcript

/-- Requests that are neither reports nor take a picture. -/
def Request.IsPlain : Request → Prop
  | shielded call => call ≠ .screenshot
  | tell m => ∀ e, m ≠ .progress e
  | guarded _ | inside _ | check | clock | now => True

/-- **A plain request leaves the picture at hand**, unless it shows that the run is cancelled. -/
theorem Answered.pictureAfter_of_isPlain {x : Answered} (plain : x.request.IsPlain)
    (picture : Option String) :
    x.event? = none ∧ (¬ x.ShowsCancellation → x.pictureAfter picture = picture) ∧
      (x.ShowsCancellation → x.pictureAfter picture = none) := by
  obtain ⟨request, answer⟩ := x
  cases request with
  | shielded c => cases c <;> first | exact absurd rfl plain | exact ⟨rfl, fun _ => rfl, False.elim⟩
  | guarded c => cases answer <;> simp [event?, message?, ShowsCancellation, pictureAfter]
  | inside c => cases answer <;> simp [event?, message?, ShowsCancellation, pictureAfter]
  | check => cases answer <;> simp [event?, message?, ShowsCancellation, pictureAfter]
  | clock => exact ⟨rfl, fun _ => rfl, False.elim⟩
  | now => exact ⟨rfl, fun _ => rfl, False.elim⟩
  | tell m =>
    cases m with
    | progress e => exact absurd rfl (plain e)
    | session id testCase => exact ⟨rfl, fun _ => rfl, False.elim⟩
    | summary s => exact ⟨rfl, fun _ => rfl, False.elim⟩

namespace Transcript

variable {t : Transcript}

/-- Plain requests take no picture and make no report. -/
theorem Within.pictured (within : t.Within Request.IsPlain) (picture : Option String) :
    t.Pictured picture := by
  induction t generalizing picture with
  | nil => rfl
  | cons x t ih =>
    obtain ⟨plain, rest⟩ := (within_cons _ _ _).1 within
    obtain ⟨silent, -, -⟩ := Answered.pictureAfter_of_isPlain plain picture
    rw [Pictured, events_cons, pictures, silent]
    exact ih rest _

/-- **They leave the picture at hand** if they do not show that the run is cancelled. -/
theorem Within.pictureAfter_of_calm (within : t.Within Request.IsPlain)
    (calm : ¬ t.ShowsCancellation) (picture : Option String) :
    t.pictureAfter picture = picture := by
  induction t generalizing picture with
  | nil => rfl
  | cons x t ih =>
    obtain ⟨plain, rest⟩ := (within_cons _ _ _).1 within
    rw [showsCancellation_cons, not_or] at calm
    obtain ⟨-, leaves, -⟩ := Answered.pictureAfter_of_isPlain plain picture
    exact (ih rest calm.2 _).trans (leaves calm.1)

/-- Where there is no picture at hand, plain requests bring none. -/
theorem Within.pictureAfter_none (within : t.Within Request.IsPlain) :
    t.pictureAfter none = none := by
  induction t with
  | nil => rfl
  | cons x t ih =>
    obtain ⟨plain, rest⟩ := (within_cons _ _ _).1 within
    obtain ⟨-, leaves, drops⟩ := Answered.pictureAfter_of_isPlain plain none
    have still : x.pictureAfter none = none := by
      by_cases shows : x.ShowsCancellation
      · exact drops shows
      · exact leaves shows
    have step : pictureAfter none (x :: t) = pictureAfter (x.pictureAfter none) t := rfl
    rw [step, still]
    exact ih rest

/-- **Once the run is seen to be cancelled** no picture is at hand. -/
theorem Within.pictureAfter_of_shows (within : t.Within Request.IsPlain)
    (shows : t.ShowsCancellation) (picture : Option String) : t.pictureAfter picture = none := by
  induction t generalizing picture with
  | nil => exact absurd shows not_showsCancellation_nil
  | cons x t ih =>
    obtain ⟨plain, rest⟩ := (within_cons _ _ _).1 within
    have step : pictureAfter picture (x :: t) = pictureAfter (x.pictureAfter picture) t := rfl
    rcases (showsCancellation_cons x t).1 shows with first | later
    · obtain ⟨-, -, drops⟩ := Answered.pictureAfter_of_isPlain plain picture
      rw [step, drops first]
      exact rest.pictureAfter_none
    · rw [step]
      exact ih rest later _

end Transcript

/-- A picture that was taken is at hand. -/
theorem pictureAfter_screenshot {t : Transcript} {taken : Option String}
    (h : Yields Routine.screenshot t taken) (picture : Option String) :
    t.Pictured picture ∧ t.pictureAfter picture = taken := by
  obtain ⟨shot, rfl, rfl⟩ := yields_screenshot h
  exact ⟨rfl, rfl⟩

/-! ## Attempts -/

/-- **What an attempt to end a step leaves**: reports with the pictures at hand, and no picture at
hand, unless a fault breaks the step off. -/
structure Depicted (picture : Option String) (t : Transcript)
    (r : Except StepError ActionOutcome) : Prop where
  pictured : t.Pictured picture
  pictureAfter : (∀ e, r = .error e → e = .cancelled) → t.pictureAfter picture = none

namespace Attempt

variable {α : Type} {picture : Option String}

/-- **An attempt that ends a step with the picture at hand.** -/
def Depicts (picture : Option String) (x : Attempt ActionOutcome) : Prop :=
  ∀ t r, Yields x.run t r → Depicted picture t r

/-- **Work without pictures** before such an attempt makes such an attempt. -/
theorem depicts_bind {x : Attempt α} {f : α → Attempt ActionOutcome}
    (hx : Keeps Request.IsPlain x) (hf : ∀ a, Depicts picture (f a)) :
    Depicts picture (x >>= f) := by
  intro t r h
  rcases yields_run_bind.1 h with ⟨e, h₁, rfl⟩ | ⟨t₁, a, t₂, rfl, h₁, h₂⟩
  · refine ⟨(hx.within h₁).pictured picture, fun cancelled => ?_⟩
    have shows : t.ShowsCancellation := (hx.cancelled_iff h₁).1 (by rw [cancelled e rfl])
    exact (hx.within h₁).pictureAfter_of_shows shows picture
  · have calm : ¬ t₁.ShowsCancellation := fun shows => nomatch (hx.cancelled_iff h₁).2 shows
    have leaves := (hx.within h₁).pictureAfter_of_calm calm picture
    obtain ⟨pictured, after⟩ := hf a t₂ r h₂
    refine ⟨((hx.within h₁).pictured picture).append (by rwa [leaves]), fun ends => ?_⟩
    rw [Transcript.pictureAfter_append, leaves]
    exact after ends

/-- **A picture that is taken** is at hand for what follows. -/
theorem depicts_screenshot_bind {f : Option String → Attempt ActionOutcome}
    (hf : ∀ taken, Depicts taken (f taken)) : Depicts picture (screenshot >>= f) := by
  intro t r h
  obtain ⟨t₁, taken, t₂, rfl, h₁, h₂⟩ := yields_run_lift_bind.1 h
  obtain ⟨first, after⟩ := pictureAfter_screenshot h₁ picture
  obtain ⟨pictured, left⟩ := hf taken t₂ r h₂
  refine ⟨first.append (by rwa [after]), fun ends => ?_⟩
  rw [Transcript.pictureAfter_append, after]
  exact left ends

/-- A step that breaks off leaves it to the interpreter to report. -/
theorem depicts_throw {e : StepError} (fault : e ≠ .cancelled) : Depicts picture (throw e) := by
  intro t r h
  obtain ⟨rfl, rfl⟩ := yields_run_throw.1 h
  exact ⟨rfl, fun cancelled => absurd (cancelled e rfl) fault⟩

/-- **A report with the picture at hand** ends a step. -/
theorem depicts_report {e : ProgressEvent} (o : ActionOutcome) (bears : e.screenshot = picture) :
    Depicts picture (do emit e; return o) := by
  intro t r h
  rw [emit, Routine.emit, Routine.tell, yields_run_request_bind] at h
  obtain ⟨x, u, rfl, hu⟩ := h
  obtain ⟨rfl, rfl⟩ := yields_run_pure.1 hu
  exact ⟨congrArg (fun p => [p]) bears, fun _ => rfl⟩

/-- **A step that fails** is reported with a picture of its own. -/
theorem depicts_fail (step : StepRecord) (action : String) (started : Nat) (o : ActionOutcome) :
    Depicts picture (fail step action started o) :=
  depicts_screenshot_bind fun _ => depicts_bind (keeps_clock trivial) fun _ => depicts_report o rfl

/-- **A step that is completed** is reported with the picture at hand. -/
theorem depicts_complete (step : StepRecord) (action : String) (started : Nat)
    (details : Option Json) : Depicts picture (complete step action started picture details) :=
  depicts_bind (keeps_clock trivial) fun _ => depicts_report .completed rfl

/-- No picture is at hand when a step is started, and none afterwards. -/
theorem depicts_start {step : StepRecord} {f : Nat → Attempt ActionOutcome}
    (hf : ∀ started, Depicts none (f started)) : Depicts none (start step >>= f) := by
  intro t r h
  obtain ⟨started, v, rfl, hv⟩ := yields_start_bind h
  obtain ⟨pictured, after⟩ := hf started v r hv
  exact ⟨congrArg (none :: ·) pictured, after⟩

end Attempt

/-! ## Handlers -/

namespace Handler

open Attempt

/-- Navigation takes no picture. -/
theorem depicts_navigate (ctx : StepContext) (step : StepRecord) :
    Depicts none (navigate ctx step) := by
  refine depicts_start fun started => ?_
  split
  · exact depicts_throw StepError.noConfusion
  · refine depicts_bind (keeps_guard trivial) fun answer => ?_
    refine depicts_bind (keeps_orFault answer) fun _ => ?_
    exact depicts_complete step _ _ _

/-- A click shows the page before it. -/
theorem depicts_click (ctx : StepContext) (step : StepRecord) : Depicts none (click ctx step) := by
  refine depicts_start fun started => ?_
  refine depicts_bind (keeps_settle (fun _ _ => trivial) _) fun _ => ?_
  refine depicts_bind (keeps_resolveWithin (fun _ _ => trivial) _ _ _) fun resolution => ?_
  cases resolution with
  | notFound attempts => exact depicts_fail step _ _ _
  | found found =>
    refine depicts_screenshot_bind fun picture => ?_
    refine depicts_bind (keeps_guard trivial) fun answer => ?_
    refine depicts_bind (keeps_orFault answer) fun _ => ?_
    refine depicts_bind (keeps_guard trivial) fun _ => ?_
    exact depicts_complete step _ _ _

/-- A change shows the page before it. -/
theorem depicts_change (submit : Bool) (ctx : StepContext) (step : StepRecord) :
    Depicts none (change submit ctx step) := by
  refine depicts_start fun started => ?_
  refine depicts_bind (keeps_settle (fun _ _ => trivial) _) fun _ => ?_
  refine depicts_bind (keeps_resolveWithin (fun _ _ => trivial) _ _ _) fun resolution => ?_
  cases resolution with
  | notFound attempts => exact depicts_fail step _ _ _
  | found found =>
    refine depicts_screenshot_bind fun picture => ?_
    refine depicts_bind (keeps_typeInto (fun _ _ => trivial) _ _) fun typed => ?_
    refine depicts_bind (keeps_submitted (fun _ _ => trivial) _ _ _) fun action => ?_
    exact depicts_complete step _ _ _

/-- A wait takes no picture. -/
theorem depicts_wait (ctx : StepContext) (step : StepRecord) : Depicts none (wait ctx step) := by
  refine depicts_start fun started => ?_
  cases waitMs? step.value with
  | none => exact depicts_throw StepError.noConfusion
  | some ms =>
    dsimp only
    cases Span.ofSeconds? (ms.div (Binary64.ofNat 1000)) with
    | error e => exact depicts_throw StepError.noConfusion
    | ok span =>
      refine depicts_bind (keeps_guard trivial) fun _ => ?_
      exact depicts_bind (keeps_clock trivial) fun finished => depicts_report _ rfl

/-- An assertion takes a picture where it fails. -/
theorem depicts_assertion (ctx : StepContext) (step : StepRecord) :
    Depicts none (assertion ctx step) := by
  refine depicts_start fun started => ?_
  dsimp only
  split
  · exact depicts_fail step _ _ _
  · split
    · exact depicts_throw StepError.noConfusion
    · refine depicts_bind (keeps_settle (fun _ _ => trivial) _) fun _ => ?_
      refine depicts_bind (keeps_resolveWithin (fun _ _ => trivial) _ _ _) fun resolution => ?_
      cases resolution with
      | notFound attempts => exact depicts_fail step _ _ _
      | found found =>
        refine depicts_bind (keeps_examine (fun _ => trivial) (fun _ => trivial) _ _ _)
          fun finding => ?_
        obtain ⟨actual, failure⟩ := finding
        cases failure with
        | some message => exact depicts_fail step _ _ _
        | none => exact depicts_complete step _ _ _

/-- Typing a code takes a picture where it fails. -/
theorem depicts_enterCodeOf (ctx : StepContext) (step : StepRecord) (started : Nat)
    (locator username : String) (reference : Instant) :
    Depicts none (enterCodeOf ctx step started locator username reference) := by
  refine depicts_bind
    (Passcode.keeps_acquireWithin trivial (fun _ _ => trivial) _ _ _ _) fun code? => ?_
  cases code? with
  | none => exact depicts_fail step _ _ _
  | some code =>
    refine depicts_bind (keeps_enterDigits (fun _ _ => trivial) _ _ _) fun failure => ?_
    cases failure with
    | some message => exact depicts_fail step _ _ _
    | none => exact depicts_complete step _ _ _

/-- A passcode step takes a picture where it fails. -/
theorem depicts_passcode (ctx : StepContext) (step : StepRecord) :
    Depicts none (passcode ctx step) := by
  refine depicts_start fun started => ?_
  refine depicts_bind (keeps_settle (fun _ _ => trivial) _) fun _ => ?_
  split
  · exact depicts_fail step _ _ _
  · refine depicts_bind (keeps_resolveWithin (fun _ _ => trivial) _ _ _) fun resolution => ?_
    cases resolution with
    | notFound attempts => exact depicts_fail step _ _ _
    | found found =>
      refine depicts_bind (keeps_guard trivial) fun answer => ?_
      refine depicts_bind (keeps_orFault answer) fun _ => ?_
      refine depicts_bind (keeps_request trivial fun _ h => h) fun reference => ?_
      split
      · exact depicts_fail step _ _ _
      · exact depicts_enterCodeOf ctx step _ _ _ _

end Handler

/-- **The reports of every handler bear the pictures at hand.** -/
theorem depicts_handler (a : Action) (ctx : StepContext) (step : StepRecord) :
    Attempt.Depicts none (a.handler ctx step) := by
  cases a with
  | navigate => exact Handler.depicts_navigate ctx step
  | click => exact Handler.depicts_click ctx step
  | change => exact Handler.depicts_change false ctx step
  | changeWithEnter => exact Handler.depicts_change true ctx step
  | wait => exact Handler.depicts_wait ctx step
  | assert => exact Handler.depicts_assertion ctx step
  | otp => exact Handler.depicts_passcode ctx step

/-! ## Runs through steps -/

/-- **A part of a run whose reports bear the pictures at hand**, and that begins and ends with
none. -/
structure Transcript.SelfPictured (t : Transcript) : Prop where
  pictured : t.Pictured none
  pictureAfter : t.pictureAfter none = none

/-- Such parts make such a whole. -/
theorem Transcript.SelfPictured.append {t u : Transcript} (first : t.SelfPictured)
    (second : u.SelfPictured) : (t ++ u).SelfPictured where
  pictured := first.pictured.append (by rw [first.pictureAfter]; exact second.pictured)
  pictureAfter := by rw [pictureAfter_append, first.pictureAfter, second.pictureAfter]

/-- Plain requests are such a part. -/
theorem Transcript.Within.selfPictured {t : Transcript} (within : t.Within Request.IsPlain) :
    t.SelfPictured :=
  ⟨within.pictured none, within.pictureAfter_none⟩

/-- The interpreter reports a failure with the picture that it was given. -/
theorem pictured_reportFailure {step : StepRecord} {started : Nat} {error : String}
    {picture : Option String} {t : Transcript} {a : Unit}
    (h : Yields (reportFailure step started error picture) t a) :
    t.Pictured picture ∧ t.pictureAfter picture = none := by
  obtain ⟨finished, rfl⟩ := yields_reportFailure h
  exact ⟨rfl, rfl⟩

/-- **What follows the end of a handler** reports with the picture at hand, if it reports. -/
theorem Depicted.conclude {step : StepRecord} {started : Nat} {t u : Transcript}
    {r : Except StepError ActionOutcome} {d : Dispatched} (h : Depicted none t r)
    (concluded : Yields (conclude step started r) u d) : (t ++ u).SelfPictured := by
  cases r with
  | ok outcome =>
    obtain ⟨rfl, rfl⟩ := yields_pure.1 concluded
    rw [List.append_nil]
    exact ⟨h.pictured, h.pictureAfter fun e ends => nomatch ends⟩
  | error e =>
    by_cases cancelled : e = .cancelled
    · subst cancelled
      obtain ⟨t₁, _, t₂, rfl, h₁, h₂⟩ := yields_bind.1 concluded
      obtain ⟨rfl, rfl⟩ := yields_pure.1 h₂
      obtain ⟨pictured, after⟩ := pictured_reportFailure h₁
      rw [List.append_nil]
      have none : t.pictureAfter none = none := h.pictureAfter fun e ends => by cases ends; rfl
      exact Transcript.SelfPictured.append ⟨h.pictured, none⟩ ⟨pictured, after⟩
    · -- a fault is reported with a picture that is taken now
      have sequence : Playback.conclude step started (.error e) = (do
          let picture ← Routine.screenshot
          reportFailure step started e.message picture
          return .ended true) := by
        cases e with
        | cancelled => exact absurd rfl cancelled
        | invalidStep index reason => rfl
        | page fault => rfl
      rw [sequence] at concluded
      obtain ⟨t₁, taken, t₂, rfl, h₁, h₂⟩ := yields_bind.1 concluded
      obtain ⟨t₃, _, t₄, rfl, h₃, h₄⟩ := yields_bind.1 h₂
      obtain ⟨rfl, rfl⟩ := yields_pure.1 h₄
      obtain ⟨first, taken⟩ := pictureAfter_screenshot h₁ (t.pictureAfter none)
      obtain ⟨second, after⟩ := pictured_reportFailure h₃
      rw [List.append_nil]
      constructor
      · refine h.pictured.append (first.append ?_)
        rwa [taken]
      · rw [Transcript.pictureAfter_append, Transcript.pictureAfter_append, taken, after]

/-- **The reports on a dispatched step bear the pictures at hand.** -/
theorem pictured_dispatch {registry : Registry} {ctx : StepContext} {step : StepRecord}
    {t : Transcript} {d : Dispatched} (h : Yields (dispatch registry ctx step) t d) :
    t.SelfPictured := by
  rw [dispatch, yields_request_bind] at h
  obtain ⟨started, u, rfl, hu⟩ := h
  have noted : Transcript.SelfPictured [⟨.clock, started⟩] := ⟨rfl, rfl⟩
  refine noted.append ?_
  cases found : registry.handler? step with
  | none =>
    simp only [found] at hu
    obtain ⟨t₁, _, t₂, rfl, h₁, h₂⟩ := yields_bind.1 hu
    obtain ⟨rfl, rfl⟩ := yields_pure.1 h₂
    obtain ⟨pictured, after⟩ := pictured_reportFailure h₁
    rw [List.append_nil]
    exact ⟨pictured, after⟩
  | some handler =>
    obtain ⟨a, -, -, rfl⟩ := Registry.handler?_eq_some found
    simp only [found] at hu
    obtain ⟨t₁, result, t₂, rfl, h₁, h₂⟩ := yields_bind.1 hu
    exact (depicts_handler a ctx _ t₁ result h₁).conclude h₂

/-- Skipped steps are reported without pictures. -/
theorem pictured_skipSteps {rest : List StepRecord} {t : Transcript} {a : Unit}
    (h : Yields (skipSteps rest) t a) : t.SelfPictured := by
  induction rest generalizing t with
  | nil =>
    obtain ⟨rfl, -⟩ := yields_pure.1 h
    exact ⟨rfl, rfl⟩
  | cons step rest ih =>
    obtain ⟨t₁, _, t₂, rfl, h₁, h₂⟩ := yields_bind.1 h
    rw [yields_request.1 h₁]
    have skipped : Transcript.SelfPictured
        [⟨.tell (.progress (.skipped step.indexStep step.label)), ()⟩] := ⟨rfl, rfl⟩
    exact skipped.append (ih h₂)

/-- **The reports of a run through steps bear the pictures at hand.** -/
theorem pictured_interpretFrom {registry : Registry} {ctx : StepContext} {steps : List StepRecord}
    {before after : RunOutcome} {t : Transcript}
    (h : Yields (interpretFrom registry ctx steps before) t after) : t.SelfPictured := by
  induction steps generalizing before t with
  | nil =>
    obtain ⟨rfl, -⟩ := yields_pure.1 h
    exact ⟨rfl, rfl⟩
  | cons step rest ih =>
    rw [interpretFrom, yields_request_bind] at h
    obtain ⟨cancelled, u, rfl, hu⟩ := h
    have looked : Transcript.SelfPictured [⟨.check, cancelled⟩] :=
      Transcript.Within.selfPictured (by simp [Request.IsPlain])
    refine looked.append ?_
    cases cancelled with
    | true =>
      obtain ⟨rfl, -⟩ := yields_pure.1 hu
      exact ⟨rfl, rfl⟩
    | false =>
      rw [if_neg Bool.false_ne_true] at hu
      obtain ⟨t₁, d, t₂, rfl, h₁, h₂⟩ := yields_bind.1 hu
      refine (pictured_dispatch h₁).append ?_
      cases d with
      | cancelled =>
        obtain ⟨rfl, -⟩ := yields_pure.1 h₂
        exact ⟨rfl, rfl⟩
      | ended halt =>
        dsimp only at h₂
        split at h₂
        · obtain ⟨t₃, _, t₄, rfl, h₃, h₄⟩ := yields_bind.1 h₂
          obtain ⟨rfl, -⟩ := yields_pure.1 h₄
          rw [List.append_nil]
          exact pictured_skipSteps h₃
        · exact ih h₂

end Playback
