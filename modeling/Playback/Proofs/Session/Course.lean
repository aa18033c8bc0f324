import Playback.Proofs.Interpreter.Course
import Playback.Run.Session

/-!
# The course of a session

A session leads a page to the start of the test, and then has its steps carried out or gives up.

* `Setback` — **why a session comes to nothing** before its first step;
* `Engine.lead`, `Engine.proceed` — the two halves of a session, which `session_eq` puts together;
* `LeadCourse`, `SessionCourse` — **the transcripts of the first half and of a whole session**;
* `yields_ledgered` — the ledger of a session is that of the events it reports;
* `yields_session` — the transcript and the summary of a session are those of a course;
* `World.outcome?`, `World.run_session_of_ready`, `World.session_of_idle` — a session in a world,
  with its steps and without them.
-/

namespace Playback

open Routine

/-! ## Setbacks -/

/-- **Why a session comes to nothing**: the verdict on it, and the error if there is one. -/
structure Setback where
  status : RunStatus
  error : Option String

/-- The setback that the answer to a guarded call is, if it is one. -/
def Setback.ofAnswer? {ε : Type} (describe : ε → String) :
    Guarded (Except ε Unit) → Option Setback
  | .answered (.ok _) => none
  | .answered (.error e) => some ⟨.error, some (describe e)⟩
  | .refused => some ⟨.cancelled, none⟩
  | .interrupted => some ⟨.cancelled, none⟩

/-- What is said of a page that the start of the test could not be opened on. -/
def startFailure (url : String) (fault : PageFault) : String :=
  "Could not open " ++ url ++ ": " ++ fault.message

/-- **A setback is a fault or a cancellation.** -/
theorem Setback.ofAnswer?_eq_some {ε : Type} {describe : ε → String}
    {answer : Guarded (Except ε Unit)} {setback : Setback}
    (h : ofAnswer? describe answer = some setback) :
    (∃ e, answer = .answered (.error e) ∧ setback = ⟨.error, some (describe e)⟩) ∨
      (answer = .refused ∨ answer = .interrupted) ∧ setback = ⟨.cancelled, none⟩ := by
  cases answer with
  | refused => exact .inr ⟨.inl rfl, (Option.some.inj h).symm⟩
  | interrupted => exact .inr ⟨.inr rfl, (Option.some.inj h).symm⟩
  | answered result =>
    cases result with
    | ok _ => exact nomatch h
    | error e => exact .inl ⟨e, rfl, (Option.some.inj h).symm⟩

/-- An answer that is no setback is the success of the call. -/
theorem Setback.ofAnswer?_eq_none {ε : Type} {describe : ε → String}
    {answer : Guarded (Except ε Unit)} (h : ofAnswer? describe answer = none) :
    answer = .answered (.ok ()) := by
  cases answer with
  | refused => exact nomatch h
  | interrupted => exact nomatch h
  | answered result =>
    cases result with
    | ok _ => rfl
    | error e => exact nomatch h

/-! ## The two halves of a session -/

/-- **Where the first half of a session leads.** -/
inductive Lead where
  /-- A page is at the start of the test. -/
  | ready
  /-- No page was opened. -/
  | unopened (setback : Setback)
  /-- The page that was opened did not get to the start of the test. -/
  | astray (setback : Setback)

/-- Whether there is a page to give back. -/
def Lead.hasPage : Lead → Bool
  | ready => true
  | unopened _ => false
  | astray _ => true

namespace Engine

/-- The time the start of the test has to load. -/
def navigationSpan (engine : Engine) : Nat := Span.ofMillis engine.config.timeouts.navigationMs

/-- **Opens a page and leads it to the start of the test**; hands back when the session started. -/
def lead (engine : Engine) (request : RunRequest) : Routine (Nat × Lead) := do
  let started ← Routine.request .clock
  Routine.tell (.session request.sessionId request.testCase)
  let opened ← Routine.request (.guarded (.openPage
    (engine.config.browser.options request.headless)))
  match Setback.ofAnswer? OpenFault.message opened with
  | some setback => return (started, .unopened setback)
  | none =>
    match request.startUrl with
    | none => return (started, .ready)
    | some url => do
      let loaded ← Routine.request (.guarded (.goto url engine.navigationSpan))
      match Setback.ofAnswer? (startFailure url) loaded with
      | some setback => return (started, .astray setback)
      | none => return (started, .ready)

/-- **Carries the steps of a request out.** -/
def stepping (engine : Engine) (request : RunRequest) : Routine RunOutcome :=
  interpret engine.registry ⟨engine.config, request.data⟩ request.steps

/-- The summary of steps that were carried out, with the counts of a ledger. -/
def played (request : RunRequest) (started finished : Nat) (outcome : RunOutcome)
    (ledger : Ledger) : RunSummary :=
  { barren request started finished (verdict outcome ledger.counts) none with
    lastIndexStep := outcome.lastIndexStep
    completed := ledger.counts.completed
    failed := ledger.counts.failed
    skipped := ledger.counts.skipped }

/-- **Closes the page and sums up** steps that were carried out. -/
def windUp (request : RunRequest) (started : Nat) : RunOutcome × Ledger → Routine RunSummary
  | (outcome, ledger) => do
    closePage
    let finished ← Routine.request .clock
    finish (played request started finished outcome ledger)

/-- To play is to carry the steps out with a ledger, and to wind up. -/
theorem play_eq (engine : Engine) (request : RunRequest) (started : Nat) :
    engine.play request started =
      (engine.stepping request).ledgered {} >>= windUp request started :=
  rfl

/-- **Goes on from where a page was led.** -/
def proceed (engine : Engine) (request : RunRequest) : Nat × Lead → Routine RunSummary
  | (started, .ready) => engine.play request started
  | (started, .unopened setback) => do
    let summary ← barrenNow request started setback.status setback.error
    finish summary
  | (started, .astray setback) => abandon request started setback.status setback.error

/-- **A session is its two halves.** -/
theorem session_eq (engine : Engine) (request : RunRequest) :
    engine.session request = engine.lead request >>= engine.proceed request := by
  refine congrArg (Routine.ask .clock) (funext fun started => ?_)
  refine congrArg (Routine.ask (.tell _)) (funext fun _ => ?_)
  refine congrArg (Routine.ask (.guarded (.openPage _))) (funext fun opened => ?_)
  cases opened with
  | refused => rfl
  | interrupted => rfl
  | answered result =>
    cases result with
    | error e => rfl
    | ok _ =>
      dsimp only [Setback.ofAnswer?, playFromStart]
      cases request.startUrl with
      | none => rfl
      | some url =>
        refine congrArg (Routine.ask (.guarded (.goto url _))) (funext fun loaded => ?_)
        cases loaded with
        | refused => rfl
        | interrupted => rfl
        | answered result => cases result <;> rfl

end Engine

/-! ## The ledger -/

/-- A routine with a ledger asks what the routine asks, and goes on with a ledger that has taken in
what the request reports. -/
theorem Routine.exists_ledgered_ask {α : Type} (q : Request) (k : q.Answer → Routine α)
    (before : Ledger) :
    ∃ heard : Ledger, (ask q k).ledgered before = ask q (fun x => (k x).ledgered heard) ∧
      ∀ x, (Answered.event? ⟨q, x⟩).toList.foldl Ledger.recordEvent before = heard := by
  cases q with
  | tell m => exact ⟨before.hear m, rfl, fun _ => by cases m <;> rfl⟩
  | shielded c => exact ⟨before, rfl, fun _ => rfl⟩
  | guarded c => exact ⟨before, rfl, fun _ => rfl⟩
  | inside c => exact ⟨before, rfl, fun _ => rfl⟩
  | check => exact ⟨before, rfl, fun _ => rfl⟩
  | clock => exact ⟨before, rfl, fun _ => rfl⟩
  | now => exact ⟨before, rfl, fun _ => rfl⟩

/-- **A routine with a ledger** puts the requests of the routine, and its ledger has taken the
reported events in. -/
theorem Routine.yields_ledgered {α : Type} {r : Routine α} {before after : Ledger} {t : Transcript}
    {a : α} : Yields (r.ledgered before) t (a, after) ↔
      Yields r t a ∧ after = t.events.foldl Ledger.recordEvent before := by
  induction r generalizing before after t with
  | done b =>
    rw [Routine.ledgered, yields_done, yields_done, Prod.mk.injEq]
    constructor
    · rintro ⟨rfl, rfl, rfl⟩
      exact ⟨⟨rfl, rfl⟩, rfl⟩
    · rintro ⟨⟨rfl, rfl⟩, rfl⟩
      exact ⟨rfl, rfl, rfl⟩
  | ask q k ih =>
    obtain ⟨heard, unfolded, taken⟩ := Routine.exists_ledgered_ask q k before
    rw [unfolded, yields_ask, yields_ask]
    constructor
    · rintro ⟨x, u, rfl, h⟩
      obtain ⟨yields, rfl⟩ := (ih x).1 h
      rw [Transcript.events_cons, List.foldl_append, taken x]
      exact ⟨⟨x, u, rfl, yields⟩, rfl⟩
    · rintro ⟨⟨x, u, rfl, yields⟩, rfl⟩
      rw [Transcript.events_cons, List.foldl_append, taken x]
      exact ⟨x, u, rfl, (ih x).2 ⟨yields, rfl⟩⟩

/-- In a world, a routine with a ledger puts the requests of the routine. -/
theorem World.log_ledgered {σ α : Type} (w : World σ) (r : Routine α) (l : Ledger) (s : σ) :
    w.log (r.ledgered l) s = w.log r s := by
  induction r generalizing l s with
  | done a => rfl
  | ask q k ih =>
    obtain ⟨heard, unfolded, -⟩ := Routine.exists_ledgered_ask q k l
    rw [unfolded]
    exact congrArg (_ :: ·) (ih _ heard _)

/-- In a world, a routine with a ledger comes to the state and the result of the routine, with the
ledger of what it reported. -/
theorem World.run_ledgered {σ α : Type} (w : World σ) (r : Routine α) (l : Ledger) (s : σ) :
    w.run (r.ledgered l) s =
      (((w.run r s).1, (w.events r s).foldl Ledger.recordEvent l), (w.run r s).2) := by
  induction r generalizing l s with
  | done a => rfl
  | ask q k ih =>
    obtain ⟨heard, unfolded, taken⟩ := Routine.exists_ledgered_ask q k l
    have events : w.events (.ask q k) s = (Answered.event? ⟨q, (w.reply s q).1⟩).toList ++
        w.events (k (w.reply s q).1) (w.reply s q).2 :=
      Transcript.events_cons _ _
    rw [unfolded, events, List.foldl_append, taken]
    exact ih _ heard _

/-! ## Transcripts -/

/-- The summary of a run is told. -/
def Answered.summing (summary : RunSummary) : Answered := ⟨.tell (.summary summary), ()⟩

namespace Engine

/-- How a session begins: the time, the announcement, and the opening of a page. -/
def opening (engine : Engine) (request : RunRequest) (started : Nat)
    (opened : Guarded (Except OpenFault Unit)) : Transcript :=
  [⟨.clock, started⟩, ⟨.tell (.session request.sessionId request.testCase), ()⟩,
    ⟨.guarded (.openPage (engine.config.browser.options request.headless)), opened⟩]

/-- The start of the test is loaded. -/
def loading (engine : Engine) (url : String) (loaded : Guarded (Except PageFault Unit)) :
    Answered :=
  ⟨.guarded (.goto url engine.navigationSpan), loaded⟩

end Engine

/-- **The transcripts of the first half of a session.** -/
inductive LeadCourse (engine : Engine) (request : RunRequest) : Transcript → Nat × Lead → Prop where
  | unopened {started : Nat} {opened : Guarded (Except OpenFault Unit)} {setback : Setback}
      (failed : Setback.ofAnswer? OpenFault.message opened = some setback) :
      LeadCourse engine request (engine.opening request started opened)
        (started, .unopened setback)
  | opened {started : Nat} (noUrl : request.startUrl = none) :
      LeadCourse engine request (engine.opening request started (.answered (.ok ())))
        (started, .ready)
  | astray {started : Nat} {url : String} {loaded : Guarded (Except PageFault Unit)}
      {setback : Setback} (startUrl : request.startUrl = some url)
      (failed : Setback.ofAnswer? (startFailure url) loaded = some setback) :
      LeadCourse engine request
        (engine.opening request started (.answered (.ok ())) ++ [engine.loading url loaded])
        (started, .astray setback)
  | led {started : Nat} {url : String} (startUrl : request.startUrl = some url) :
      LeadCourse engine request
        (engine.opening request started (.answered (.ok ())) ++
          [engine.loading url (.answered (.ok ()))])
        (started, .ready)

/-- **The transcripts of a session.** -/
inductive SessionCourse (engine : Engine) (request : RunRequest) :
    Transcript → RunSummary → Prop where
  /-- No page was opened. -/
  | unopened {t : Transcript} {started finished : Nat} {setback : Setback}
      (lead : LeadCourse engine request t (started, .unopened setback)) :
      SessionCourse engine request
        (t ++ [⟨.clock, finished⟩,
          .summing (Engine.barren request started finished setback.status setback.error)])
        (Engine.barren request started finished setback.status setback.error)
  /-- A page was opened, and given up before the first step. -/
  | abandoned {t : Transcript} {started finished : Nat} {setback : Setback}
      {closed : Except PageFault Unit}
      (lead : LeadCourse engine request t (started, .astray setback)) :
      SessionCourse engine request
        (t ++ [⟨.clock, finished⟩, ⟨.shielded .close, closed⟩,
          .summing (Engine.barren request started finished setback.status setback.error)])
        (Engine.barren request started finished setback.status setback.error)
  /-- The steps were carried out, to some outcome. -/
  | played {t u : Transcript} {started finished : Nat} {outcome : RunOutcome}
      {closed : Except PageFault Unit}
      (lead : LeadCourse engine request t (started, .ready))
      (steps : Yields (engine.stepping request) u outcome) :
      SessionCourse engine request
        (t ++ (u ++ [⟨.shielded .close, closed⟩, ⟨.clock, finished⟩,
          .summing (Engine.played request started finished outcome (Ledger.ofEvents u.events))]))
        (Engine.played request started finished outcome (Ledger.ofEvents u.events))

/-- **The first half of a session is a course.** -/
theorem yields_lead {engine : Engine} {request : RunRequest} {t : Transcript} {lead : Nat × Lead}
    (h : Yields (engine.lead request) t lead) : LeadCourse engine request t lead := by
  rw [Engine.lead, yields_request_bind] at h
  obtain ⟨started, t₁, rfl, h₁⟩ := h
  rw [Routine.tell, yields_request_bind] at h₁
  obtain ⟨_, t₂, rfl, h₂⟩ := h₁
  rw [yields_request_bind] at h₂
  obtain ⟨opened, t₃, rfl, h₃⟩ := h₂
  cases setback : Setback.ofAnswer? OpenFault.message opened with
  | some setback =>
    simp only [setback] at h₃
    obtain ⟨rfl, rfl⟩ := yields_pure.1 h₃
    exact .unopened ‹_›
  | none =>
    simp only [setback] at h₃
    obtain rfl := Setback.ofAnswer?_eq_none setback
    cases startUrl : request.startUrl with
    | none =>
      simp only [startUrl] at h₃
      obtain ⟨rfl, rfl⟩ := yields_pure.1 h₃
      exact .opened startUrl
    | some url =>
      simp only [startUrl] at h₃
      rw [yields_request_bind] at h₃
      obtain ⟨loaded, t₄, rfl, h₄⟩ := h₃
      cases failed : Setback.ofAnswer? (startFailure url) loaded with
      | some setback =>
        simp only [failed] at h₄
        obtain ⟨rfl, rfl⟩ := yields_pure.1 h₄
        exact .astray startUrl failed
      | none =>
        simp only [failed] at h₄
        obtain rfl := Setback.ofAnswer?_eq_none failed
        obtain ⟨rfl, rfl⟩ := yields_pure.1 h₄
        exact .led startUrl

/-- A summary of a run that came to nothing gives the time at which it is made. -/
theorem yields_barrenNow {request : RunRequest} {started : Nat} {status : RunStatus}
    {error : Option String} {t : Transcript} {summary : RunSummary}
    (h : Yields (Engine.barrenNow request started status error) t summary) :
    ∃ finished : Nat, t = [⟨.clock, finished⟩] ∧
      summary = Engine.barren request started finished status error := by
  rw [Engine.barrenNow, yields_request_bind] at h
  obtain ⟨finished, u, rfl, hu⟩ := h
  obtain ⟨rfl, rfl⟩ := yields_pure.1 hu
  exact ⟨finished, rfl, rfl⟩

/-- The summary is told and handed back. -/
theorem yields_finish {summary result : RunSummary} {t : Transcript}
    (h : Yields (Engine.finish summary) t result) : t = [.summing summary] ∧ result = summary := by
  rw [Engine.finish, Routine.tell, yields_request_bind] at h
  obtain ⟨_, u, rfl, hu⟩ := h
  obtain ⟨rfl, rfl⟩ := yields_pure.1 hu
  exact ⟨rfl, rfl⟩

/-- The page is closed by one call. -/
theorem yields_closePage {t : Transcript} {a : Unit} (h : Yields Engine.closePage t a) :
    ∃ closed : Except PageFault Unit, t = [⟨.shielded .close, closed⟩] := by
  rw [Engine.closePage, yields_request_bind] at h
  obtain ⟨closed, u, rfl, hu⟩ := h
  obtain ⟨rfl, -⟩ := yields_pure.1 hu
  exact ⟨closed, rfl⟩

/-- To wind up is to close the page, to read the clock and to tell the summary. -/
theorem yields_windUp {request : RunRequest} {started : Nat} {outcome : RunOutcome}
    {ledger : Ledger} {t : Transcript} {summary : RunSummary}
    (h : Yields (Engine.windUp request started (outcome, ledger)) t summary) :
    ∃ (closed : Except PageFault Unit) (finished : Nat),
      summary = Engine.played request started finished outcome ledger ∧
        t = [⟨.shielded .close, closed⟩, ⟨.clock, finished⟩, .summing summary] := by
  obtain ⟨t₁, _, t₂, rfl, h₁, h₂⟩ := yields_bind.1 h
  obtain ⟨closed, rfl⟩ := yields_closePage h₁
  rw [yields_request_bind] at h₂
  obtain ⟨finished, t₃, rfl, h₃⟩ := h₂
  obtain ⟨rfl, rfl⟩ := yields_finish h₃
  exact ⟨closed, finished, rfl, rfl⟩

/-- Without a page a session sums up at once. -/
theorem yields_proceed_unopened {engine : Engine} {request : RunRequest} {started : Nat}
    {setback : Setback} {t : Transcript} {summary : RunSummary}
    (h : Yields (engine.proceed request (started, .unopened setback)) t summary) :
    ∃ finished : Nat,
      summary = Engine.barren request started finished setback.status setback.error ∧
        t = [⟨.clock, finished⟩, .summing summary] := by
  obtain ⟨t₁, _, t₂, rfl, h₁, h₂⟩ := yields_bind.1 h
  obtain ⟨finished, rfl, rfl⟩ := yields_barrenNow h₁
  obtain ⟨rfl, rfl⟩ := yields_finish h₂
  exact ⟨finished, rfl, rfl⟩

/-- A page that went astray is closed before its session is summed up. -/
theorem yields_proceed_astray {engine : Engine} {request : RunRequest} {started : Nat}
    {setback : Setback} {t : Transcript} {summary : RunSummary}
    (h : Yields (engine.proceed request (started, .astray setback)) t summary) :
    ∃ (finished : Nat) (closed : Except PageFault Unit),
      summary = Engine.barren request started finished setback.status setback.error ∧
        t = [⟨.clock, finished⟩, ⟨.shielded .close, closed⟩, .summing summary] := by
  obtain ⟨t₁, _, u, rfl, h₁, hu⟩ := yields_bind.1 h
  obtain ⟨finished, rfl, rfl⟩ := yields_barrenNow h₁
  obtain ⟨t₂, _, t₃, rfl, h₂, h₃⟩ := yields_bind.1 hu
  obtain ⟨closed, rfl⟩ := yields_closePage h₂
  obtain ⟨rfl, rfl⟩ := yields_finish h₃
  exact ⟨finished, closed, rfl, rfl⟩

/-- **A session is a course.** -/
theorem yields_session {engine : Engine} {request : RunRequest} {t : Transcript}
    {summary : RunSummary} (h : Yields (engine.session request) t summary) :
    SessionCourse engine request t summary := by
  rw [Engine.session_eq] at h
  obtain ⟨t₀, ⟨started, lead⟩, u, rfl, h₀, hu⟩ := yields_bind.1 h
  have course := yields_lead h₀
  cases lead with
  | unopened setback =>
    obtain ⟨finished, rfl, rfl⟩ := yields_proceed_unopened hu
    exact .unopened course
  | astray setback =>
    obtain ⟨finished, closed, rfl, rfl⟩ := yields_proceed_astray hu
    exact .abandoned course
  | ready =>
    rw [Engine.proceed, Engine.play_eq] at hu
    obtain ⟨t₁, ⟨outcome, ledger⟩, t₂, rfl, h₁, h₂⟩ := yields_bind.1 hu
    obtain ⟨steps, rfl⟩ := Routine.yields_ledgered.1 h₁
    obtain ⟨closed, finished, rfl, rfl⟩ := yields_windUp h₂
    exact .played course steps

/-! ## What the observer is told -/

/-- **Before the first step** the observer is told of the session and of nothing else. -/
theorem LeadCourse.told_eq {engine : Engine} {request : RunRequest} {t : Transcript}
    {lead : Nat × Lead} (h : LeadCourse engine request t lead) :
    t.told = [.session request.sessionId request.testCase] := by
  cases h <;> rfl

/-- Before the first step no step is reported on. -/
theorem LeadCourse.events_eq_nil {engine : Engine} {request : RunRequest} {t : Transcript}
    {lead : Nat × Lead} (h : LeadCourse engine request t lead) : t.events = [] := by
  cases h <;> rfl

/-- **A setback is an error with a text or a cancellation without one.** -/
theorem LeadCourse.setback_cases {engine : Engine} {request : RunRequest} {t : Transcript}
    {started : Nat} {lead : Lead} {setback : Setback}
    (h : LeadCourse engine request t (started, lead))
    (stuck : lead = .unopened setback ∨ lead = .astray setback) :
    setback.status = .error ∧ setback.error.isSome = true ∨
      setback.status = .cancelled ∧ setback.error = none := by
  have answered : ∀ {ε : Type} {describe : ε → String} {answer : Guarded (Except ε Unit)}
      {other : Setback}, Setback.ofAnswer? describe answer = some other → other = setback →
      setback.status = .error ∧ setback.error.isSome = true ∨
        setback.status = .cancelled ∧ setback.error = none := by
    rintro ε describe answer other failed rfl
    rcases Setback.ofAnswer?_eq_some failed with ⟨e, -, rfl⟩ | ⟨-, rfl⟩
    · exact .inl ⟨rfl, rfl⟩
    · exact .inr ⟨rfl, rfl⟩
  cases h with
  | unopened failed => exact answered failed (by simpa using stuck)
  | astray startUrl failed => exact answered failed (by simpa using stuck)
  | opened noUrl => simp at stuck
  | led startUrl => simp at stuck

/-! ## Sessions in a world -/

namespace World

variable {σ : Type} (w : World σ) (engine : Engine) (request : RunRequest) (s : σ)

/-- The state to which the first half of a session comes. -/
def ledTo : σ := (w.run (engine.lead request) s).2

/-- **What the steps of a session come to**, if they are carried out. -/
def outcome? : Option RunOutcome :=
  match (w.run (engine.lead request) s).1.2 with
  | .ready => some (w.run (engine.stepping request) (w.ledTo engine request s)).1
  | .unopened _ => none
  | .astray _ => none

/-- **The log of a session** begins with that of its first half. -/
theorem log_session : w.log (engine.session request) s =
    w.log (engine.lead request) s ++
      w.log (engine.proceed request (w.run (engine.lead request) s).1)
        (w.ledTo engine request s) := by
  rw [Engine.session_eq, log_bind]
  rfl

variable {w engine request s} {started : Nat}

/-- The steps are carried out where the first half leads. -/
theorem outcome?_of_ready (h : (w.run (engine.lead request) s).1 = (started, .ready)) :
    w.outcome? engine request s =
      some (w.run (engine.stepping request) (w.ledTo engine request s)).1 := by
  rw [outcome?, h]

/-- Steps are carried out only where the first half leads to the start of the test. -/
theorem ready_of_outcome? {outcome : RunOutcome}
    (h : w.outcome? engine request s = some outcome) :
    ∃ started, (w.run (engine.lead request) s).1 = (started, .ready) := by
  rw [outcome?] at h
  split at h
  · next ready => exact ⟨(w.run (engine.lead request) s).1.1, Prod.ext rfl ready⟩
  · exact nomatch h
  · exact nomatch h

/-- The first half of a session reports on no step. -/
theorem reports_lead : reports (w.log (engine.lead request) s) = [] :=
  (yields_lead (w.yields (engine.lead request) s)).events_eq_nil

/-- In a world, a session reports what its second half reports. -/
theorem events_session : w.events (engine.session request) s =
    w.events (engine.proceed request (w.run (engine.lead request) s).1)
      (w.ledTo engine request s) := by
  rw [events_eq, log_session, reports_append, reports_lead]
  rfl

/-- **A session that does not carry its steps out** reports on none and is summed up as barren. -/
theorem session_of_idle (idle : w.outcome? engine request s = none) :
    w.events (engine.session request) s = [] ∧
      ∃ (started finished : Nat) (setback : Setback), (w.run (engine.session request) s).1 =
        Engine.barren request started finished setback.status setback.error := by
  have yields := w.yields (engine.proceed request (w.run (engine.lead request) s).1)
    (w.ledTo engine request s)
  have summary : (w.run (engine.session request) s).1 =
      (w.run (engine.proceed request (w.run (engine.lead request) s).1)
        (w.ledTo engine request s)).1 := by
    rw [Engine.session_eq, run_bind]
    rfl
  rw [events_session, events, summary]
  cases led : (w.run (engine.lead request) s).1 with
  | mk started lead =>
    rw [led] at yields
    cases lead with
    | ready => exact nomatch (outcome?_of_ready led).symm.trans idle
    | unopened setback =>
      obtain ⟨finished, barren, told⟩ := yields_proceed_unopened yields
      exact ⟨(congrArg Transcript.events told).trans rfl, started, finished, setback, barren⟩
    | astray setback =>
      obtain ⟨finished, closed, barren, told⟩ := yields_proceed_astray yields
      exact ⟨(congrArg Transcript.events told).trans rfl, started, finished, setback, barren⟩

/-- To wind up reports on no step. -/
theorem reports_windUp (result : RunOutcome × Ledger) (s : σ) :
    reports (w.log (Engine.windUp request started result) s) = [] := by
  obtain ⟨outcome, ledger⟩ := result
  obtain ⟨closed, finished, -, told⟩ :=
    yields_windUp (w.yields (Engine.windUp request started (outcome, ledger)) s)
  exact (congrArg Transcript.events told).trans rfl

/-- **A session that carries its steps out** winds up from where they lead, with the ledger of what
they reported. -/
theorem run_session_of_ready (h : (w.run (engine.lead request) s).1 = (started, .ready)) :
    ∃ rest : Routine RunSummary,
      rest = Engine.windUp request started
        ((w.run (engine.stepping request) (w.ledTo engine request s)).1,
          Ledger.ofEvents (w.events (engine.stepping request) (w.ledTo engine request s))) ∧
      w.log (engine.session request) s = w.log (engine.lead request) s ++
        (w.log (engine.stepping request) (w.ledTo engine request s) ++
          w.log rest (w.run (engine.stepping request) (w.ledTo engine request s)).2) ∧
      w.run (engine.session request) s =
        w.run rest (w.run (engine.stepping request) (w.ledTo engine request s)).2 := by
  refine ⟨_, rfl, ?_, ?_⟩
  · rw [log_session, h, Engine.proceed, Engine.play_eq, log_bind, log_ledgered, run_ledgered]
    rfl
  · rw [Engine.session_eq, run_bind, h, Engine.proceed, Engine.play_eq, run_bind, ledTo,
      run_ledgered]
    rfl

/-- **A session that carries its steps out** reports what they report, and is summed up so. -/
theorem session_of_ready (h : (w.run (engine.lead request) s).1 = (started, .ready)) :
    w.events (engine.session request) s =
        w.events (engine.stepping request) (w.ledTo engine request s) ∧
      ∃ finished, (w.run (engine.session request) s).1 =
        Engine.played request started finished
          (w.run (engine.stepping request) (w.ledTo engine request s)).1
          (Ledger.ofEvents (w.events (engine.stepping request) (w.ledTo engine request s))) := by
  obtain ⟨rest, windUp, log, run⟩ := run_session_of_ready h
  have yields := w.yields rest (w.run (engine.stepping request) (w.ledTo engine request s)).2
  rw [windUp] at yields
  obtain ⟨closed, finished, summary, told⟩ := yields_windUp yields
  refine ⟨?_, finished, ?_⟩
  · rw [events_eq, log, windUp, reports_append, reports_append, reports_lead, reports_windUp,
      List.nil_append, List.append_nil]
    rfl
  · rw [run, windUp]
    exact summary

end World

end Playback
