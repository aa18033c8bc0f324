import Playback.Proofs.Handler.Alike
import Playback.Proofs.Handler.Pictures
import Playback.Proofs.Session.Course

/-!
# Sessions and calls that decide nothing

Pictures, the waits for phases of the page, and its closing are made as well as they go. In two
settings that differ in their results alone, a session makes the same calls, comes to the same
summary, and reports the same but for the pictures; and these are the pictures that were taken.

* `alike_dispatch`, `alike_interpretFrom`, `alike_session` — **steps, lists of steps and sessions go
  on alike**;
* `pictured_session` — the reports of a session bear the pictures at hand;
* `DecidesNothing`, `session_bestEffort` — **what that means for two settings**.
-/

namespace Playback

open Routine

/-! ## Steps -/

/-- The interpreter reports a failure alike with different pictures. -/
theorem alike_reportFailure (step : StepRecord) (started : Nat) (error : String)
    (picture₁ picture₂ : Option String) :
    Routine.Alike Eq (reportFailure step started error picture₁)
      (reportFailure step started error picture₂) := by
  refine alike_bind (alike_request trivial) fun finished₁ finished₂ same => ?_
  rw [same]
  exact alike_tell rfl

/-- What follows the end of a handler is alike. -/
theorem alike_conclude (step : StepRecord) (started : Nat)
    (result : Except StepError ActionOutcome) :
    Routine.Alike Eq (conclude step started result) (conclude step started result) := by
  have broken : ∀ message : String, Routine.Alike Eq
      (Routine.screenshot >>= fun picture => reportFailure step started message picture >>= fun _ =>
        pure (Dispatched.ended true))
      (Routine.screenshot >>= fun picture => reportFailure step started message picture >>= fun _ =>
        pure (Dispatched.ended true)) := by
    intro message
    refine alike_bind alike_screenshot fun picture₁ picture₂ _ => ?_
    exact alike_bind (alike_reportFailure _ _ _ _ _) fun _ _ _ => .done rfl
  cases result with
  | ok outcome => exact .done rfl
  | error e =>
    cases e with
    | cancelled => exact alike_bind (alike_reportFailure _ _ _ _ _) fun _ _ _ => .done rfl
    | invalidStep index reason => exact broken _
    | page fault => exact broken _

/-- **A step is dispatched alike**, whatever the calls that decide nothing are answered. -/
theorem alike_dispatch (registry : Registry) (ctx : StepContext) (step : StepRecord) :
    Routine.Alike Eq (dispatch registry ctx step) (dispatch registry ctx step) := by
  refine alike_bind (alike_request trivial) fun started _ same => ?_
  subst same
  cases found : registry.handler? step with
  | none => exact alike_bind (alike_reportFailure _ _ _ _ _) fun _ _ _ => .done rfl
  | some handler =>
    obtain ⟨a, -, -, rfl⟩ := Registry.handler?_eq_some found
    refine alike_bind (alike_handler a ctx _) fun result₁ result₂ ends => ?_
    rw [ends.eq]
    exact alike_conclude step started result₂

/-- Steps are skipped alike. -/
theorem alike_skipSteps (steps : List StepRecord) :
    Routine.Alike Eq (skipSteps steps) (skipSteps steps) := by
  induction steps with
  | nil => exact .done rfl
  | cons step rest ih => exact alike_bind (alike_tell rfl) fun _ _ _ => ih

/-- **Steps are carried out alike.** -/
theorem alike_interpretFrom (registry : Registry) (ctx : StepContext) (steps : List StepRecord)
    (outcome : RunOutcome) :
    Routine.Alike Eq (interpretFrom registry ctx steps outcome)
      (interpretFrom registry ctx steps outcome) := by
  induction steps generalizing outcome with
  | nil => exact .done rfl
  | cons step rest ih =>
    refine alike_bind (alike_request trivial) fun cancelled _ same => ?_
    subst same
    cases cancelled with
    | true => exact .done rfl
    | false =>
      refine alike_bind (alike_dispatch registry ctx step) fun d _ same => ?_
      subst same
      cases d with
      | cancelled => exact .done rfl
      | ended halt =>
        dsimp only
        split
        · exact alike_bind (alike_skipSteps rest) fun _ _ _ => .done rfl
        · exact ih _

/-! ## Sessions -/

/-- Messages that are the same but for their pictures are taken into a ledger alike. -/
theorem Ledger.hear_of_unpictured {m₁ m₂ : StreamMessage} (same : m₁.unpictured = m₂.unpictured)
    (l : Ledger) : l.hear m₁ = l.hear m₂ := by
  cases m₁ with
  | session id testCase => cases m₂ <;> first | rfl | exact nomatch same
  | summary s => cases m₂ <;> first | rfl | exact nomatch same
  | progress e₁ =>
    cases m₂ with
    | session id testCase => exact nomatch same
    | summary s => exact nomatch same
    | progress e₂ =>
      have events := StreamMessage.progress.inj same
      have index : e₁.unpictured.indexStep = e₂.unpictured.indexStep := by rw [events]
      have status : e₁.unpictured.status = e₂.unpictured.status := by rw [events]
      exact congrArg₂ l.record index status

/-- **Routines that keep a ledger are alike** if they are so without it, and end with one ledger. -/
theorem Routine.Alike.ledgered {α : Type} {r₁ r₂ : Routine α} (h : Routine.Alike Eq r₁ r₂)
    (l : Ledger) : Routine.Alike Eq (r₁.ledgered l) (r₂.ledgered l) := by
  induction h generalizing l with
  | done same => exact .done (congrArg (·, l) same)
  | @tell m₁ m₂ same k₁ k₂ following ih =>
    rw [Routine.ledgered, Routine.ledgered, Ledger.hear_of_unpictured same]
    exact .tell same (ih _)
  | ask q following ih =>
    cases q with
    | tell m => exact .ask (.tell m) fun x y alike => ih x y alike _
    | _ => exact .ask _ fun x y alike => ih x y alike l

/-- The first half of a session puts no call that decides nothing. -/
theorem alike_lead (engine : Engine) (request : RunRequest) :
    Routine.Alike Eq (engine.lead request) (engine.lead request) := by
  refine alike_self fun t lead yields => ?_
  cases yields_lead yields <;>
    simp [Engine.opening, Engine.loading, Request.IsDecisive, Call.IsBestEffort]

/-- The page is closed alike, whatever becomes of that. -/
theorem alike_closePage : Routine.Alike Eq Engine.closePage Engine.closePage :=
  .ask (.shielded .close) fun _ _ _ => .done rfl

/-- A run that came to nothing is summed up alike. -/
theorem alike_barrenNow (request : RunRequest) (started : Nat) (status : RunStatus)
    (error : Option String) :
    Routine.Alike Eq (Engine.barrenNow request started status error)
      (Engine.barrenNow request started status error) := by
  refine alike_bind (alike_request trivial) fun finished₁ finished₂ same => ?_
  rw [same]
  exact .done rfl

/-- A summary is told alike. -/
theorem alike_finish (summary : RunSummary) :
    Routine.Alike Eq (Engine.finish summary) (Engine.finish summary) :=
  alike_bind (alike_tell rfl) fun _ _ _ => .done rfl

/-- **A session goes on alike**, whatever the calls that decide nothing are answered. -/
theorem alike_session (engine : Engine) (request : RunRequest) :
    Routine.Alike Eq (engine.session request) (engine.session request) := by
  rw [Engine.session_eq]
  refine alike_bind (alike_lead engine request) fun lead _ same => ?_
  subst same
  obtain ⟨started, lead⟩ := lead
  cases lead with
  | ready =>
    refine alike_bind ((alike_interpretFrom _ _ _ _).ledgered {}) fun result _ same => ?_
    subst same
    refine alike_bind alike_closePage fun _ _ _ => ?_
    refine alike_bind (alike_barrenNow request started _ _) fun summary _ same => ?_
    subst same
    exact alike_finish _
  | unopened setback =>
    refine alike_bind (alike_barrenNow request started _ _) fun summary _ same => ?_
    subst same
    exact alike_finish _
  | astray setback =>
    refine alike_bind (alike_barrenNow request started _ _) fun summary _ same => ?_
    subst same
    exact alike_bind alike_closePage fun _ _ _ => alike_finish _

/-- **The reports of a session bear the pictures at hand.** -/
theorem pictured_session {engine : Engine} {request : RunRequest} {t : Transcript}
    {summary : RunSummary} (h : Yields (engine.session request) t summary) :
    t.Pictured none := by
  have lead : ∀ {t : Transcript} {lead : Nat × Lead}, LeadCourse engine request t lead →
      t.SelfPictured := by
    intro t lead course
    refine Transcript.Within.selfPictured ?_
    cases course <;> simp [Engine.opening, Engine.loading, Request.IsPlain]
  cases yields_session h with
  | unopened course =>
    refine ((lead course).append (Transcript.Within.selfPictured ?_)).pictured
    simp [Answered.summing, Request.IsPlain]
  | abandoned course =>
    refine ((lead course).append (Transcript.Within.selfPictured ?_)).pictured
    simp [Answered.summing, Request.IsPlain]
  | played course steps =>
    refine ((lead course).append ((pictured_interpretFrom steps).append
      (Transcript.Within.selfPictured ?_))).pictured
    simp [Answered.summing, Request.IsPlain]

/-! ## Two settings -/

/-- **What becomes of best-effort calls decides nothing** in the sessions of two settings. -/
structure DecidesNothing {σ₁ σ₂ : Type} (e₁ : Setting σ₁) (e₂ : Setting σ₂)
    (session : Routine RunSummary) (s₁ : σ₁) (s₂ : σ₂) : Prop where
  /-- The same calls are made, in one order and at the same times. -/
  calls_eq : e₁.timedCalls session s₁ = e₂.timedCalls session s₂
  /-- The summaries are equal. -/
  summary_eq : (e₁.world.run session s₁).1 = (e₂.world.run session s₂).1
  /-- The events are the same but for their pictures. -/
  events_eq : (e₁.world.events session s₁).map ProgressEvent.unpictured =
    (e₂.world.events session s₂).map ProgressEvent.unpictured
  /-- In the first setting the pictures are those that were taken. -/
  pictures₁ : (e₁.world.events session s₁).map (·.screenshot) =
    (e₁.world.transcript session s₁).pictures none
  /-- So they are in the second. -/
  pictures₂ : (e₂.world.events session s₂).map (·.screenshot) =
    (e₂.world.transcript session s₂).pictures none

/-- **Best-effort calls never decide a run**: in two settings that answer alike, and in the same time,
but for the results of pictures, of closing the page and of the waits for its phases, a session makes
the same calls, comes to the same summary and reports the same events, but for their pictures; and
in either, an event bears the picture that was taken for it, and none where that failed. -/
theorem session_bestEffort {σ₁ σ₂ : Type} (e₁ : Setting σ₁) (e₂ : Setting σ₂) (R : σ₁ → σ₂ → Prop)
    (engine : Engine) (request : RunRequest) (s₁ : σ₁) (s₂ : σ₂) (alike : e₁.Alike e₂ R)
    (related : R s₁ s₂) : DecidesNothing e₁ e₂ (engine.session request) s₁ s₂ := by
  obtain ⟨calls, events, summary⟩ := alike.run (alike_session engine request) related
  exact {
    calls_eq := calls
    summary_eq := summary
    events_eq := events
    pictures₁ := pictured_session (e₁.world.yields (engine.session request) s₁)
    pictures₂ := pictured_session (e₂.world.yields (engine.session request) s₂) }

/-- A page that shows itself, settles and closes. -/
def kindPage : Simulation.Script := { epoch := ⟨0, 0⟩, screenshot := .ok [1, 2, 3] }

/-- A page that does none of that. -/
def sullenPage : Simulation.Script :=
  kindPage.withResults (.error .closed) (.error .closed) fun _ => .fails .closed

/-- A click on nothing: it lets the page settle, fails, and takes a picture of the page. -/
def clickNothing : RunRequest where
  sessionId := "session"
  steps := [{ indexStep := 1, action := "click" }]

/-- A session on a page that shows itself and on one that does not: the failure has a picture on the
first and none on the second, and that is all the difference. -/
theorem decidesNothing_of_sullenPage :
    let session := (Engine.mk .standard {}).session clickNothing
    let kind := Simulation.setting kindPage
    let sullen := Simulation.setting sullenPage
    kind.Alike sullen Eq ∧ ({} : Simulation.Solo) = {} ∧
      (kind.world.events session {}).map (·.screenshot) = [none, some "AQID"] ∧
      (sullen.world.events session {}).map (·.screenshot) = [none, none] ∧
      DecidesNothing kind sullen session {} {} := by
  have alike : (Simulation.setting kindPage).Alike (Simulation.setting sullenPage) Eq :=
    Simulation.setting_alike (fun _ => Simulation.Phase.noConfusion)
      fun _ => Simulation.Phase.noConfusion
  exact ⟨alike, rfl, by decide +kernel, by decide +kernel,
    session_bestEffort _ _ Eq (Engine.mk .standard {}) clickNothing {} {} alike rfl⟩

end Playback
