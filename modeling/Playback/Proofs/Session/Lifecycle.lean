import Playback.Proofs.Session.Cancellation

/-!
# The lifecycle of a session

A session is announced once and summed up once, and gives back the page that it was given.

* `Call.isOpening`, `Call.isOnPage` — **the calls on the driver, and the calls on a page**;
* `Lifecycle` — **what holds of a session on every path**: its messages, its page, its errors;
* `session_lifecycle` — every session has such a lifecycle, in all surroundings.
-/

namespace Playback

open Routine

/-! ## Calls -/

namespace Call

/-- The call opens a page. -/
def isOpening : Call → Bool
  | openPage _ => true
  | _ => false

/-- **The call is made on a page.** -/
def isOnPage : Call → Bool
  | goto .. | loadState .. | waitVisible .. => true
  | click _ | fill .. | press .. | text _ | state _ => true
  | screenshot | close => true
  | openPage _ | lookup .. | backoff _ | pause _ => false

/-- A call of a step opens no page and closes none. -/
theorem IsStepCall.opens_nothing {c : Call} (h : c.IsStepCall) :
    c.isOpening = false ∧ c ≠ .close := by
  cases c <;> simp_all [IsStepCall, isOpening]

/-- Nor does a call of an acquisition. -/
theorem IsAcquisitionCall.opens_nothing {c : Call} (h : c.IsAcquisitionCall) :
    c.isOpening = false ∧ c ≠ .close := by
  cases c <;> simp_all [IsAcquisitionCall, isOpening]

end Call

namespace Answered

/-- A call on a page is started. -/
def isOnPage (x : Answered) : Bool := x.started?.any Call.isOnPage

/-- The answer to the opening of a page. -/
def opened? : Answered → Option (Guarded (Except OpenFault Unit))
  | ⟨.guarded (.openPage _), opened⟩ => some opened
  | _ => none

end Answered

namespace Transcript

/-- **How often the opening of a page is started.** -/
def openings (t : Transcript) : Nat := t.calls.countP Call.isOpening

/-- The calls on a page that are started. -/
def pageCalls (t : Transcript) : List Call := t.calls.filter Call.isOnPage

/-- The answers to the opening of a page. -/
def openAnswers (t : Transcript) : List (Guarded (Except OpenFault Unit)) :=
  t.filterMap Answered.opened?

/-- **A page is opened.** -/
def Opened (t : Transcript) : Prop := .answered (.ok ()) ∈ t.openAnswers

/-- **The opening of a page fails.** -/
def FailedToOpen (t : Transcript) : Prop := ∃ fault, .answered (.error fault) ∈ t.openAnswers

/-- **The start of a test cannot be loaded**: the first call on a page loads it, and fails. -/
def FailedToStart (t : Transcript) (url : String) : Prop :=
  ∃ timeout fault, t.find? Answered.isOnPage =
    some ⟨.guarded (.goto url timeout), .answered (.error fault)⟩

@[simp] theorem openings_append (t u : Transcript) :
    openings (t ++ u) = openings t + openings u := by
  rw [openings, calls_append, List.countP_append]
  rfl

@[simp] theorem pageCalls_append (t u : Transcript) :
    pageCalls (t ++ u) = pageCalls t ++ pageCalls u := by
  rw [pageCalls, calls_append, List.filter_append]
  rfl

@[simp] theorem openAnswers_append (t u : Transcript) :
    openAnswers (t ++ u) = openAnswers t ++ openAnswers u :=
  List.filterMap_append

end Transcript

/-! ## Runs through steps -/

namespace Transcript.Within

variable {t : Transcript}

/-- Of a run through steps the observer is told its progress. -/
theorem told_of_steps (h : t.Within Request.IsOfSteps) : t.told = t.events.map .progress := by
  induction t with
  | nil => rfl
  | cons x t ih =>
    obtain ⟨first, rest⟩ := (Transcript.within_cons _ x t).1 h
    rw [Transcript.told_cons, Transcript.events_cons, List.map_append, ih rest]
    obtain ⟨q, a⟩ := x
    rcases first with work | ⟨e, same⟩
    · cases q with
      | tell m => exact work.elim
      | _ => rfl
    · cases same
      rfl

/-- A run through steps opens no page and closes none. -/
theorem calls_of_steps (h : t.Within Request.IsOfSteps) {c : Call} (hc : c ∈ t.calls) :
    c.isOpening = false ∧ c ≠ .close := by
  obtain ⟨⟨q, a⟩, mem, started⟩ := List.mem_filterMap.1 hc
  rcases h _ mem with work | ⟨e, rfl⟩
  · cases q with
    | shielded call =>
      obtain rfl := Option.some.inj started
      cases (work : call = .screenshot)
      exact ⟨rfl, fun h => nomatch h⟩
    | guarded call =>
      have same : call = c := by
        cases a with
        | refused => exact nomatch started
        | interrupted => exact Option.some.inj started
        | answered _ => exact Option.some.inj started
      exact same ▸ Call.IsStepCall.opens_nothing work
    | inside call =>
      obtain rfl := Option.some.inj started
      exact Call.IsAcquisitionCall.opens_nothing work
    | check => exact nomatch started
    | clock => exact nomatch started
    | now => exact nomatch started
    | tell m => exact work.elim
  · exact nomatch started

/-- Nor does it get an answer to the opening of one. -/
theorem openAnswers_of_steps (h : t.Within Request.IsOfSteps) : t.openAnswers = [] := by
  refine List.filterMap_eq_nil_iff.2 fun x hx => ?_
  have ofSteps := h x hx
  obtain ⟨q, a⟩ := x
  rcases ofSteps with work | ⟨e, rfl⟩
  · cases q with
    | guarded call => cases call <;> first | rfl | exact (work : False).elim
    | _ => rfl
  · rfl

end Transcript.Within

/-! ## The first half of a session -/

namespace LeadCourse

variable {engine : Engine} {request : RunRequest} {t : Transcript} {started : Nat} {lead : Lead}
  {setback : Setback}

/-- The first half of a session begins with the announcement. -/
theorem exists_announced (h : LeadCourse engine request t (started, lead)) :
    ∃ u, t = ⟨.clock, started⟩ ::
      ⟨.tell (.session request.sessionId request.testCase), ()⟩ :: u := by
  cases h <;> exact ⟨_, rfl⟩

/-- Without a page the opening was started at most once, and there is no call on a page. -/
theorem calls_of_unopened (h : LeadCourse engine request t (started, .unopened setback)) :
    t.openings ≤ 1 ∧ t.pageCalls = [] := by
  cases h with
  | @unopened _ opened _ failed =>
    cases opened <;> simp [Transcript.openings, Transcript.pageCalls, Engine.opening,
      Answered.started?, Call.isOpening, Call.isOnPage]

/-- With a page the opening was started once, and the page was not closed. -/
theorem calls_of_opened (h : LeadCourse engine request t (started, lead))
    (page : lead.hasPage = true) :
    t.openings = 1 ∧ .close ∉ t.pageCalls := by
  cases h with
  | unopened failed => cases page
  | opened noUrl =>
    simp [Transcript.openings, Transcript.pageCalls, Engine.opening, Answered.started?,
      Call.isOpening, Call.isOnPage]
  | @astray _ url loaded _ startUrl failed =>
    cases loaded <;> simp [Transcript.openings, Transcript.pageCalls, Engine.opening,
      Engine.loading, Answered.started?, List.countP_cons, Call.isOpening, Call.isOnPage]
  | led startUrl =>
    simp [Transcript.openings, Transcript.pageCalls, Engine.opening, Engine.loading,
      Answered.started?, List.countP_cons, Call.isOpening, Call.isOnPage]

/-- Without a page the opening was not answered so. -/
theorem openAnswers_of_unopened (h : LeadCourse engine request t (started, .unopened setback)) :
    .answered (.ok ()) ∉ t.openAnswers := by
  cases h with
  | unopened failed =>
    rcases Setback.ofAnswer?_eq_some failed with ⟨e, rfl, -⟩ | ⟨rfl | rfl, -⟩ <;>
      simp [Transcript.openAnswers, Engine.opening, Answered.opened?]

/-- With a page the opening was answered by it. -/
theorem openAnswers_of_opened (h : LeadCourse engine request t (started, lead))
    (page : lead.hasPage = true) : t.openAnswers = [.answered (.ok ())] := by
  cases h with
  | unopened failed => cases page
  | opened noUrl => rfl
  | astray startUrl failed => rfl
  | led startUrl => rfl

section

variable {u : Transcript} {outcome : RunOutcome} (closed : Except PageFault Unit) (finished : Nat)
  (summary : RunSummary)

/-- When the steps are carried out, no other page is opened. -/
theorem openAnswers_of_played (h : LeadCourse engine request t (started, .ready))
    (steps : Yields (engine.stepping request) u outcome) :
    Transcript.openAnswers (t ++ (u ++ [⟨.shielded .close, closed⟩, ⟨.clock, finished⟩,
      .summing summary])) = [.answered (.ok ())] := by
  rw [Transcript.openAnswers_append, Transcript.openAnswers_append, h.openAnswers_of_opened rfl,
    (within_of_yields_interpret steps).openAnswers_of_steps]
  rfl

/-- Nor is the opening of another started. -/
theorem openings_of_played (h : LeadCourse engine request t (started, .ready))
    (steps : Yields (engine.stepping request) u outcome) :
    Transcript.openings (t ++ (u ++ [⟨.shielded .close, closed⟩, ⟨.clock, finished⟩,
      .summing summary])) = 1 := by
  have within := within_of_yields_interpret steps
  have none : Transcript.openings u = 0 := by
    refine List.countP_eq_zero.2 fun c hc => ?_
    rw [(within.calls_of_steps hc).1]
    exact Bool.false_ne_true
  rw [Transcript.openings_append, (h.calls_of_opened rfl).1, Transcript.openings_append, none]
  rfl

/-- **The page on which the steps were carried out is closed once**, by the last call on it. -/
theorem pageCalls_of_played (h : LeadCourse engine request t (started, .ready))
    (steps : Yields (engine.stepping request) u outcome) :
    ∃ calls, Transcript.pageCalls (t ++ (u ++ [⟨.shielded .close, closed⟩, ⟨.clock, finished⟩,
      .summing summary])) = calls ++ [.close] ∧ .close ∉ calls := by
  have within := within_of_yields_interpret steps
  refine ⟨t.pageCalls ++ Transcript.pageCalls u, ?_, ?_⟩
  · rw [Transcript.pageCalls_append, Transcript.pageCalls_append, List.append_assoc]
    rfl
  · rw [List.mem_append, not_or]
    refine ⟨(h.calls_of_opened rfl).2, fun mem => ?_⟩
    exact (within.calls_of_steps (List.mem_filter.1 mem).1).2 rfl

end

end LeadCourse

/-! ## Courses of sessions -/

/-- A run of steps is not judged to be an error. -/
theorem Engine.verdict_ne_error (outcome : RunOutcome) (counts : StatusCounts) :
    verdict outcome counts ≠ .error := by
  rw [verdict]
  split
  · exact fun h => nomatch h
  · split <;> exact fun h => nomatch h

namespace SessionCourse

variable {engine : Engine} {request : RunRequest} {t : Transcript} {summary : RunSummary}

/-- **A session is announced first and summed up last.** -/
theorem exists_between (h : SessionCourse engine request t summary) :
    ∃ (started : Nat) (u : Transcript), t = ⟨.clock, started⟩ ::
      ⟨.tell (.session request.sessionId request.testCase), ()⟩ :: (u ++ [.summing summary]) := by
  cases h with
  | @unopened t₀ started finished setback lead =>
    obtain ⟨u, rfl⟩ := lead.exists_announced
    exact ⟨started, u ++ [⟨.clock, finished⟩], by simp⟩
  | @abandoned t₀ started finished setback closed lead =>
    obtain ⟨u, rfl⟩ := lead.exists_announced
    exact ⟨started, u ++ [⟨.clock, finished⟩, ⟨.shielded .close, closed⟩], by simp⟩
  | @played t₀ v started finished outcome closed lead steps =>
    obtain ⟨u, rfl⟩ := lead.exists_announced
    exact ⟨started, u ++ (v ++ [⟨.shielded .close, closed⟩, ⟨.clock, finished⟩]), by simp⟩

/-- **The observer is told** of the session, of its progress, and of the summary. -/
theorem told_eq (h : SessionCourse engine request t summary) :
    t.told = .session request.sessionId request.testCase ::
      (t.events.map .progress ++ [.summary summary]) := by
  cases h with
  | unopened lead => cases lead; rfl
  | abandoned lead => cases lead; rfl
  | played lead steps =>
    rw [Transcript.told_append, Transcript.told_append, lead.told_eq,
      (within_of_yields_interpret steps).told_of_steps, Transcript.events_append,
      lead.events_eq_nil, Transcript.events_append, List.nil_append, List.map_append]
    simp [Answered.message?, Answered.event?, Answered.summing]

/-- **A page is opened at most once, and given back exactly if it was opened**, by the last call on
it. -/
theorem page_calls (h : SessionCourse engine request t summary) :
    t.openings ≤ 1 ∧ (t.Opened → ∃ calls, t.pageCalls = calls ++ [.close] ∧ .close ∉ calls) ∧
      (¬ t.Opened → t.pageCalls = []) := by
  cases h with
  | unopened lead =>
    obtain ⟨once, untouched⟩ := lead.calls_of_unopened
    refine ⟨?_, fun opened => absurd opened ?_, fun _ => ?_⟩
    · rw [Transcript.openings_append]
      exact once
    · rw [Transcript.Opened, Transcript.openAnswers_append]
      simpa [Transcript.openAnswers, Answered.opened?, Answered.summing] using
        lead.openAnswers_of_unopened
    · rw [Transcript.pageCalls_append, untouched]
      rfl
  | abandoned lead =>
    obtain ⟨once, unclosed⟩ := lead.calls_of_opened rfl
    refine ⟨?_, fun _ => ⟨_, Transcript.pageCalls_append _ _, unclosed⟩, fun none => absurd ?_ none⟩
    · rw [Transcript.openings_append, once]
      exact Nat.le_refl 1
    · rw [Transcript.Opened, Transcript.openAnswers_append, lead.openAnswers_of_opened rfl]
      exact List.mem_cons_self
  | played lead steps =>
    refine ⟨?_, fun _ => lead.pageCalls_of_played _ _ _ steps, fun none => absurd ?_ none⟩
    · exact Nat.le_of_eq (lead.openings_of_played _ _ _ steps)
    · rw [Transcript.Opened, lead.openAnswers_of_played _ _ _ steps]
      exact List.mem_cons_self

/-- A page whose opening was refused was not opened at all. -/
theorem openings_of_refused (h : SessionCourse engine request t summary)
    (refused : .refused ∈ t.openAnswers) : t.openings = 0 := by
  cases h with
  | unopened lead =>
    cases lead with
    | unopened failed =>
      rcases Setback.ofAnswer?_eq_some failed with ⟨e, rfl, rfl⟩ | ⟨rfl | rfl, rfl⟩
      · simp [Transcript.openAnswers, Engine.opening, Answered.opened?, Answered.summing] at refused
      · rfl
      · simp [Transcript.openAnswers, Engine.opening, Answered.opened?, Answered.summing] at refused
  | abandoned lead =>
    rw [Transcript.openAnswers_append, lead.openAnswers_of_opened rfl] at refused
    simp [Transcript.openAnswers, Answered.opened?, Answered.summing] at refused
  | played lead steps =>
    rw [lead.openAnswers_of_played _ _ _ steps] at refused
    simp at refused

/-- **A session ends in an error** exactly if its page could not be opened or the start of its test
could not be loaded; and then it says why. -/
theorem error_iff (h : SessionCourse engine request t summary) :
    (summary.error.isSome = true ↔ summary.status = .error) ∧
      (summary.status = .error ↔ t.FailedToOpen ∨
        ∃ url, request.startUrl = some url ∧ t.FailedToStart url) := by
  cases h with
  | unopened lead =>
    cases lead with
    | unopened failed =>
      rcases Setback.ofAnswer?_eq_some failed with ⟨e, rfl, rfl⟩ | ⟨rfl | rfl, rfl⟩ <;>
        simp [Transcript.FailedToOpen, Transcript.FailedToStart, Transcript.openAnswers,
          Engine.opening, Engine.barren, Answered.opened?, Answered.isOnPage, Answered.started?,
          Answered.summing, Call.isOnPage]
  | abandoned lead =>
    cases lead with
    | astray startUrl failed =>
      rcases Setback.ofAnswer?_eq_some failed with ⟨e, rfl, rfl⟩ | ⟨rfl | rfl, rfl⟩ <;>
        simp [Transcript.FailedToOpen, Transcript.FailedToStart, Transcript.openAnswers,
          Engine.opening, Engine.loading, Engine.barren, Answered.opened?, Answered.isOnPage,
          Answered.started?, Answered.summing, Call.isOnPage, startUrl]
  | played lead steps =>
    refine ⟨iff_of_false Bool.false_ne_true (Engine.verdict_ne_error _ _),
      iff_of_false (Engine.verdict_ne_error _ _) ?_⟩
    rintro (⟨fault, failed⟩ | ⟨url, startUrl, timeout, fault, failed⟩)
    · rw [lead.openAnswers_of_played _ _ _ steps, List.mem_singleton] at failed
      cases failed
    · cases lead with
      | opened noUrl =>
        rw [noUrl] at startUrl
        cases startUrl
      | led _ =>
        rw [List.append_assoc] at failed
        simp [Engine.opening, Engine.loading, Answered.isOnPage, Answered.started?, Call.isOnPage]
          at failed

end SessionCourse

/-! ## Sessions that come to nothing -/

/-- **A session comes to nothing**: it reports on no step, and its summary counts none. -/
structure ComesToNothing (events : List ProgressEvent) (summary : RunSummary) : Prop where
  events_eq : events = []
  completed_eq : summary.completed = 0
  failed_eq : summary.failed = 0
  skipped_eq : summary.skipped = 0
  lastIndexStep_eq : summary.lastIndexStep = none

/-- A session that ends in an error comes to nothing. -/
theorem SessionCourse.comesToNothing_of_error {engine : Engine} {request : RunRequest}
    {t : Transcript} {summary : RunSummary} (h : SessionCourse engine request t summary)
    (error : summary.status = .error) : ComesToNothing t.events summary := by
  cases h with
  | unopened lead =>
    refine ⟨?_, rfl, rfl, rfl, rfl⟩
    rw [Transcript.events_append, lead.events_eq_nil]
    rfl
  | abandoned lead =>
    refine ⟨?_, rfl, rfl, rfl, rfl⟩
    rw [Transcript.events_append, lead.events_eq_nil]
    rfl
  | played lead steps => exact absurd error (Engine.verdict_ne_error _ _)

/-- A run through steps that begins when the token is cancelled reports on none of them. -/
theorem interpret_of_cancelled {σ : Type} (e : Surroundings σ) (registry : Registry)
    (ctx : StepContext) (steps : List StepRecord) {s : σ} (h : e.cancelled s = true) :
    e.world.events (interpret registry ctx steps) s = [] ∧
      (e.world.run (interpret registry ctx steps) s).1.lastIndexStep = none := by
  cases steps with
  | nil => exact ⟨rfl, rfl⟩
  | cons step rest =>
    rw [World.events, World.transcript, interpret, interpretFrom, e.log_check_bind h,
      e.run_check_bind h]
    exact ⟨rfl, rfl⟩

/-- **A session whose steps would begin when the token is cancelled** comes to nothing. -/
theorem comesToNothing_of_cancelled {σ : Type} (e : Surroundings σ) {engine : Engine}
    {request : RunRequest} {s : σ}
    (h : e.cancelled (e.world.ledTo engine request s) = true) :
    ComesToNothing (e.world.events (engine.session request) s)
      (e.world.run (engine.session request) s).1 := by
  cases reached : e.world.outcome? engine request s with
  | none =>
    obtain ⟨silent, started, finished, setback, barren⟩ := World.session_of_idle reached
    rw [barren]
    exact ⟨silent, rfl, rfl, rfl, rfl⟩
  | some outcome =>
    obtain ⟨started, ready⟩ := World.ready_of_outcome? reached
    obtain ⟨reported, finished, summary⟩ := World.session_of_ready ready
    obtain ⟨silent, last⟩ := interpret_of_cancelled e engine.registry
      ⟨engine.config, request.data⟩ request.steps h
    rw [Engine.stepping, silent] at reported summary
    rw [reported, summary]
    exact ⟨rfl, rfl, rfl, rfl, last⟩

/-! ## Lifecycles -/

/-- **The lifecycle of a session**: its messages, its page, its errors. -/
structure Lifecycle {σ : Type} (e : Surroundings σ) (engine : Engine) (request : RunRequest)
    (s : σ) (t : Transcript) (summary : RunSummary) : Prop where
  /-- The session is announced before everything else, and summed up after everything else. -/
  between : ∃ (started : Nat) (u : Transcript), t = ⟨.clock, started⟩ ::
    ⟨.tell (.session request.sessionId request.testCase), ()⟩ :: (u ++ [.summing summary])
  /-- The observer is told of the session once, then of its progress, and then of the summary. -/
  told_eq : t.told = .session request.sessionId request.testCase ::
    (t.events.map .progress ++ [.summary summary])
  /-- The opening of a page is started at most once. -/
  openings_le : t.openings ≤ 1
  /-- It is not started if the token was cancelled before the session, or before it is asked for. -/
  openings_eq_zero : (e.cancelled s = true ∨ ∃ x ∈ e.world.log (engine.session request) s,
      x.answered.opened?.isSome = true ∧ e.cancelled x.before = true) →
    t.openings = 0
  /-- A page that was opened is closed once, by the last call on it. -/
  closed_last : t.Opened → ∃ calls, t.pageCalls = calls ++ [.close] ∧ .close ∉ calls
  /-- If none was opened there is no call on a page. -/
  untouched : ¬ t.Opened → t.pageCalls = []
  /-- The summary gives an error exactly if it says so. -/
  error_iff : summary.error.isSome = true ↔ summary.status = .error
  /-- There is an error exactly if the page was not opened or the start of the test not loaded. -/
  status_iff : summary.status = .error ↔
    t.FailedToOpen ∨ ∃ url, request.startUrl = some url ∧ t.FailedToStart url
  /-- After an error, and after a cancellation before the first step, nothing comes of it. -/
  comesToNothing : summary.status = .error ∨
      e.cancelled (e.world.ledTo engine request s) = true →
    ComesToNothing t.events summary

/-- A session that is cancelled before it starts opens no page. -/
theorem openings_of_cancelled {σ : Type} (e : Surroundings σ) {engine : Engine}
    {request : RunRequest} {s : σ} (h : e.cancelled s = true) :
    (e.world.transcript (engine.session request) s).openings = 0 := by
  refine List.countP_eq_zero.2 fun c hc opening => ?_
  obtain ⟨_, mem, started⟩ := List.mem_filterMap.1 hc
  obtain ⟨x, logged, rfl⟩ := List.mem_map.1 mem
  have heeds := (yields_session (e.world.yields (engine.session request) s)).within_heedsToken
    x.answered mem
  have unguarded := e.started_of_cancelled logged (e.cancelled_of_mem_log h logged) heeds started
  rcases unguarded with rfl | rfl | acquisition
  · exact nomatch opening
  · exact nomatch opening
  · simp [acquisition.opens_nothing] at opening

/-- The opening of a page that finds the token cancelled is refused. -/
theorem opened?_of_cancelled {σ α : Type} (e : Surroundings σ) {r : Routine α} {s : σ}
    {x : Exchange σ} (mem : x ∈ e.world.log r s) (cancelled : e.cancelled x.before = true)
    (opens : x.answered.opened?.isSome = true) : x.answered.opened? = some .refused := by
  have answer := World.answer_of_mem_log mem
  obtain ⟨before, q, a⟩ := x
  cases q with
  | guarded c =>
    cases c with
    | openPage options =>
      exact congrArg some (answer.trans
        (congrArg Prod.fst (e.guarded_of_cancelled cancelled (.openPage options))))
    | _ => exact nomatch opens
  | _ => exact nomatch opens

/-- **Every session has its lifecycle**, in all surroundings. -/
theorem session_lifecycle {σ : Type} (e : Surroundings σ) (engine : Engine) (request : RunRequest)
    (s : σ) : Lifecycle e engine request s (e.world.transcript (engine.session request) s)
      (e.world.run (engine.session request) s).1 := by
  have course := yields_session (e.world.yields (engine.session request) s)
  obtain ⟨once, closed, untouched⟩ := course.page_calls
  obtain ⟨given, failures⟩ := course.error_iff
  refine ⟨course.exists_between, course.told_eq, once, ?_, closed, untouched, given, failures, ?_⟩
  · rintro (before | ⟨x, mem, opens, cancelled⟩)
    · exact openings_of_cancelled e before
    · refine course.openings_of_refused (List.mem_filterMap.2 ⟨x.answered, ?_, ?_⟩)
      · exact List.mem_map_of_mem mem
      · exact opened?_of_cancelled e mem cancelled opens
  · rintro (error | cancelled)
    · exact course.comesToNothing_of_error error
    · exact comesToNothing_of_cancelled e cancelled

end Playback
