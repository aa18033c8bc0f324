import Playback.Proofs.Interpreter.Conduct
import Playback.Proofs.Interpreter.Grammar
import Playback.Proofs.Routine.Surroundings
import Playback.Proofs.Session.Course

/-!
# Cancellation stops a session

Once the token of a session is cancelled, nothing new is begun: the step in flight is brought to its
end, and the page is closed.

* `Call.IsUnguarded` — **what may still be started after a cancellation**;
* `Stretch` — the part of a log in which one step is dispatched;
* `StopsAtCancellation` — **how a session goes along with its token**, at every point of its log;
* `session_stopsAtCancellation` — every session does so, in all surroundings.
-/

namespace Playback

open Routine

variable {σ : Type}

/-! ## Calls -/

/-- **What may still be started once the token is cancelled**: a picture, the closing of the page,
and what an acquisition in flight asks for. -/
def Call.IsUnguarded (c : Call) : Prop := c = .screenshot ∨ c = .close ∨ c.IsAcquisitionCall

/-- **Requests that heed the token**: all other calls are guarded. -/
def Request.HeedsToken : Request → Prop
  | shielded call => call = .screenshot ∨ call = .close
  | guarded _ => True
  | inside call => call.IsAcquisitionCall
  | check | clock | now | tell _ => True

/-- The requests of a run through steps heed the token. -/
theorem Request.IsOfSteps.heedsToken {q : Request} (h : q.IsOfSteps) : q.HeedsToken := by
  rcases h with work | ⟨e, rfl⟩
  · cases q with
    | shielded c => exact .inl work
    | guarded c => trivial
    | inside c => exact work
    | check => trivial
    | clock => trivial
    | now => trivial
    | tell m => trivial
  · trivial

/-- **The requests of a session heed the token.** -/
theorem SessionCourse.within_heedsToken {engine : Engine} {request : RunRequest} {t : Transcript}
    {summary : RunSummary} (h : SessionCourse engine request t summary) :
    t.Within Request.HeedsToken := by
  have led : ∀ {u : Transcript} {lead : Nat × Lead}, LeadCourse engine request u lead →
      u.Within Request.HeedsToken := by
    intro u lead course
    cases course <;> simp [Engine.opening, Engine.loading, Request.HeedsToken]
  cases h with
  | unopened lead => simp [led lead, Request.HeedsToken, Answered.summing]
  | abandoned lead => simp [led lead, Request.HeedsToken, Answered.summing]
  | played lead steps =>
    have stepping := (within_of_yields_interpret steps).mono fun _ => Request.IsOfSteps.heedsToken
    simp [led lead, stepping, Request.HeedsToken, Answered.summing]

/-- **A request that heeds the token and finds it cancelled** starts no guarded call. -/
theorem Surroundings.started_of_cancelled {α : Type} (e : Surroundings σ) {r : Routine α} {s : σ}
    {x : Exchange σ} (mem : x ∈ e.world.log r s) (cancelled : e.cancelled x.before = true)
    (heeds : x.request.HeedsToken) {c : Call} (started : x.answered.started? = some c) :
    c.IsUnguarded := by
  have answer := World.answer_of_mem_log mem
  obtain ⟨before, q, a⟩ := x
  cases q with
  | shielded call =>
    obtain rfl := Option.some.inj started
    exact heeds.imp_right .inl
  | guarded call =>
    have refused : a = .refused :=
      answer.trans (congrArg Prod.fst (e.guarded_of_cancelled cancelled call))
    subst refused
    exact nomatch started
  | inside call =>
    obtain rfl := Option.some.inj started
    exact .inr (.inr heeds)
  | check => exact nomatch started
  | clock => exact nomatch started
  | now => exact nomatch started
  | tell m => exact nomatch started

/-! ## Stretches -/

/-- **A stretch of a log** in which one step is dispatched. -/
structure Stretch (σ : Type) where
  /-- The step. -/
  step : StepRecord
  /-- The requests, from the look at the token before the step to the last one of its dispatch. -/
  log : List (Exchange σ)
  /-- How the step left the run. -/
  ended : Dispatched

namespace Stretch

/-- **A step is dispatched in a stretch**: the token is looked at and is not cancelled, and the
dispatch of the step follows. -/
def IsDispatch (e : Surroundings σ) (registry : Registry) (ctx : StepContext) (x : Stretch σ) :
    Prop :=
  ∃ look rest, x.log = look :: rest ∧ look.request = .check ∧ e.cancelled look.before = false ∧
    DispatchCourse registry ctx x.step (rest.map Exchange.answered) x.ended

/-- A stretch shows a leg. -/
structure Shows (x : Stretch σ) (l : Leg) : Prop where
  step_eq : x.step = l.step
  ended_eq : x.ended = l.ended
  log_eq : x.log.map Exchange.answered = l.full

/-- **A log whose transcript goes through legs** consists of stretches that show them. -/
theorem exists_of_legs {log : List (Exchange σ)} {legs : List Leg} {u : Transcript}
    (h : log.map Exchange.answered = legs.flatMap Leg.full ++ u) :
    ∃ (stretches : List (Stretch σ)) (rest : List (Exchange σ)),
      log = stretches.flatMap (·.log) ++ rest ∧ rest.map Exchange.answered = u ∧
        List.Forall₂ Shows stretches legs := by
  induction legs generalizing log with
  | nil => exact ⟨[], log, rfl, h, .nil⟩
  | cons l legs ih =>
    rw [List.flatMap_cons, List.append_assoc] at h
    obtain ⟨first, others, rfl, shown, following⟩ := List.map_eq_append_iff.1 h
    obtain ⟨stretches, rest, rfl, tail, each⟩ := ih following
    refine ⟨⟨l.step, first, l.ended⟩ :: stretches, rest, ?_, tail, .cons ⟨rfl, rfl, shown⟩ each⟩
    rw [List.flatMap_cons, List.append_assoc]

/-- **A stretch that shows a dispatched leg** is the dispatch of its step, and began before any
cancellation. -/
theorem Shows.isDispatch {α : Type} {e : Surroundings σ} {registry : Registry} {ctx : StepContext}
    {r : Routine α} {s : σ} {x : Stretch σ} {l : Leg} (h : x.Shows l)
    (mem : ∀ y ∈ x.log, y ∈ e.world.log r s)
    (dispatched : DispatchCourse registry ctx l.step l.transcript l.ended) :
    x.IsDispatch e registry ctx := by
  obtain ⟨look, rest, split, first, others⟩ := List.map_eq_cons_iff.1 h.log_eq
  have answer := World.answer_of_mem_log (mem look (split ▸ List.mem_cons_self))
  refine ⟨look, rest, split, ?_, ?_, ?_⟩
  · exact congrArg Answered.request first
  · obtain ⟨before, q, a⟩ := look
    obtain ⟨rfl, seen⟩ := Answered.mk.inj first
    exact (answer.symm.trans (eq_of_heq seen))
  · rw [others, h.step_eq, h.ended_eq]
    exact dispatched

/-- In a stretch a block is told. -/
theorem IsDispatch.isBlock {e : Surroundings σ} {registry : Registry} {ctx : StepContext}
    {x : Stretch σ} (h : x.IsDispatch e registry ctx) :
    IsBlock registry x.step (reports x.log) := by
  obtain ⟨⟨before, q, a⟩, rest, split, rfl, -, dispatched⟩ := h
  rw [split]
  exact dispatched.isBlock

end Stretch

/-- What is told of steps that were not dispatched: after a halt that they are skipped. -/
def skips (halted : Bool) (rest : List StepRecord) : List ProgressEvent :=
  if halted then rest.map fun step => .skipped step.indexStep step.label else []

/-- **A run through steps in stretches of its log**, from a state on. -/
structure GoesInStretches (e : Surroundings σ) (registry : Registry) (ctx : StepContext)
    (steps : List StepRecord) (s : σ) (stretches : List (Stretch σ)) : Prop where
  /-- After the stretches only the skips are told. -/
  log_eq : ∃ rest, e.world.log (interpret registry ctx steps) s =
      stretches.flatMap (·.log) ++ rest ∧
    reports rest = skips (e.world.run (interpret registry ctx steps) s).1.halted
      (steps.drop stretches.length)
  /-- The stretches go through the first steps in order. -/
  step_eq : stretches.map (·.step) = steps.take stretches.length
  /-- Each of them dispatches its step, and begins when the token is not cancelled. -/
  dispatch_each : ∀ x ∈ stretches, x.IsDispatch e registry ctx
  /-- A run halts exactly if the last of them aborted the test and the policy is to halt. -/
  halted_iff : (e.world.run (interpret registry ctx steps) s).1.halted = true ↔
    ctx.config.abortPolicy = .haltOnAbort ∧
      ∃ x, stretches.getLast? = some x ∧ x.ended = .ended true
  /-- A run that leaves steps and does not halt is called cancelled. -/
  cancelled_of_left : stretches.length < steps.length →
    (e.world.run (interpret registry ctx steps) s).1.halted = false →
      (e.world.run (interpret registry ctx steps) s).1.cancelled = true
  /-- A run is called cancelled only if the token is cancelled. -/
  cancelled_only : (e.world.run (interpret registry ctx steps) s).1.cancelled = true →
    e.cancelled (e.world.run (interpret registry ctx steps) s).2 = true

/-- Every stretch shows some leg. -/
theorem Stretch.exists_leg {stretches : List (Stretch σ)} {legs : List Leg}
    (each : List.Forall₂ Shows stretches legs) : ∀ x ∈ stretches, ∃ l ∈ legs, x.Shows l := by
  induction each with
  | nil => exact fun _ h => nomatch h
  | @cons x l _ _ shows _ ih =>
    refine List.forall_mem_cons.2 ⟨⟨l, List.mem_cons_self, shows⟩, fun y hy => ?_⟩
    obtain ⟨l', mem, shows'⟩ := ih y hy
    exact ⟨l', List.mem_cons_of_mem l mem, shows'⟩

/-- Stretches have the steps of the legs that they show. -/
theorem Stretch.map_step_of_shows {stretches : List (Stretch σ)} {legs : List Leg}
    (each : List.Forall₂ Shows stretches legs) : stretches.map (·.step) = legs.map (·.step) := by
  induction each with
  | nil => rfl
  | cons shows _ ih => rw [List.map_cons, List.map_cons, shows.step_eq, ih]

/-- The last of some stretches shows the last of the legs. -/
theorem Stretch.getLast?_of_shows {stretches : List (Stretch σ)} {legs : List Leg}
    (each : List.Forall₂ Shows stretches legs) :
    (∃ x, stretches.getLast? = some x ∧ x.ended = .ended true) ↔
      ∃ l, legs.getLast? = some l ∧ l.ended = .ended true := by
  have ended : stretches.map (·.ended) = legs.map (·.ended) := by
    induction each with
    | nil => rfl
    | cons shows _ ih => rw [List.map_cons, List.map_cons, shows.ended_eq, ih]
  have last : stretches.getLast?.map (·.ended) = legs.getLast?.map (·.ended) := by
    rw [← List.getLast?_map, ended, List.getLast?_map]
  rw [← Option.map_eq_some_iff, last, Option.map_eq_some_iff]

/-- **A run through steps goes in stretches of its log.** -/
theorem exists_stretches (e : Surroundings σ) (registry : Registry) (ctx : StepContext)
    (steps : List StepRecord) (s : σ) :
    ∃ stretches, GoesInStretches e registry ctx steps s stretches := by
  obtain ⟨legs, ending, course, transcript, outcome⟩ :=
    yields_interpret (e.world.yields (interpret registry ctx steps) s)
  obtain ⟨stretches, rest, parts, tail, each⟩ := Stretch.exists_of_legs transcript
  have length : stretches.length = legs.length := each.length_eq
  refine ⟨stretches, ⟨rest, parts, ?_⟩, ?_, ?_, ?_, ?_, ?_⟩
  · rw [reports, tail, outcome, length]
    exact Ending.events_tail ending _ _ rfl
  · rw [length, ← course.map_step]
    exact Stretch.map_step_of_shows each
  · intro x hx
    obtain ⟨l, mem, shows⟩ := Stretch.exists_leg each x hx
    have logged : ∀ y ∈ x.log, y ∈ e.world.log (interpret registry ctx steps) s := by
      intro y hy
      rw [parts]
      exact List.mem_append_left _ (List.mem_flatMap.2 ⟨x, hx, hy⟩)
    exact shows.isDispatch logged (course.dispatch_of_mem mem)
  · rw [outcome, Stretch.getLast?_of_shows each, ← course.halted_iff]
    cases ending <;> simp [Ending.conclude]
  · rw [outcome, length]
    intro left notHalted
    cases ending with
    | finished => exact absurd left (by simp [course.length_of_finished rfl])
    | refused => rfl
    | interrupted => rfl
    | halted => simp [Ending.conclude] at notHalted
  · intro cancelled
    refine e.cancelled_of_transcript ?_
    rw [transcript]
    refine course.shows_of_cancelled ?_
    rw [outcome] at cancelled
    cases ending with
    | finished => simp [Ending.conclude] at cancelled
    | refused => exact .inl rfl
    | interrupted => exact .inr rfl
    | halted => simp [Ending.conclude] at cancelled

/-! ## Sessions -/

/-- What is told in the last of some stretches. -/
def lastReports (stretches : List (Stretch σ)) : List ProgressEvent :=
  stretches.getLast?.elim [] fun x => reports x.log

/-- **How a session goes along with its token**: it dispatches steps in some stretches of its log,
and at every point at which the token is cancelled nothing new is begun any more. -/
structure StopsAtCancellation (e : Surroundings σ) (engine : Engine) (request : RunRequest) (s : σ)
    (stretches : List (Stretch σ)) : Prop where
  /-- Nothing is told of a step before the stretches, and after them only the skips. -/
  log_eq : ∃ before after, e.world.log (engine.session request) s =
      before ++ (stretches.flatMap (·.log) ++ after) ∧
    reports before = [] ∧ reports after =
      skips ((e.world.outcome? engine request s).any (·.halted))
        (request.steps.drop stretches.length)
  /-- The stretches go through the first steps in order. -/
  step_eq : stretches.map (·.step) = request.steps.take stretches.length
  /-- Each of them begins when the token is not cancelled. -/
  dispatch_each : ∀ x ∈ stretches, x.IsDispatch e engine.registry ⟨engine.config, request.data⟩
  /-- In each of them a block is told, with one terminal event. -/
  block_each : ∀ x ∈ stretches, IsBlock engine.registry x.step (reports x.log)
  /-- From a cancellation on, all requests find the token cancelled, and only unguarded calls are
  started. -/
  started_after : ∀ before x after,
    e.world.log (engine.session request) s = before ++ x :: after → e.cancelled x.before = true →
      ∀ y ∈ x :: after, e.cancelled y.before = true ∧
        ∀ c, y.answered.started? = some c → c.IsUnguarded
  /-- From a cancellation on, nothing is told but the rest of the last stretch and the skips. -/
  told_after : ∀ before x after,
    e.world.log (engine.session request) s = before ++ x :: after → e.cancelled x.before = true →
      reports (x :: after) <:+ lastReports stretches ++
        skips ((e.world.outcome? engine request s).any (·.halted))
        (request.steps.drop stretches.length)
  /-- Steps are skipped exactly if the last step dispatched aborted the test and the policy is to
  halt. -/
  halted_iff : (e.world.outcome? engine request s).any (·.halted) = true ↔
    engine.config.abortPolicy = .haltOnAbort ∧
      ∃ x, stretches.getLast? = some x ∧ x.ended = .ended true
  /-- If steps are left and none is skipped, the outcome is called cancelled. -/
  cancelled_of_left : ∀ o, e.world.outcome? engine request s = some o →
    stretches.length < request.steps.length → o.halted = false → o.cancelled = true
  /-- An outcome is called cancelled only if the token is cancelled in the end. -/
  cancelled_only : ∀ o, e.world.outcome? engine request s = some o → o.cancelled = true →
    e.cancelled (e.world.run (engine.session request) s).2 = true

section

variable (e : Surroundings σ) {engine : Engine} {request : RunRequest} {s : σ}

/-- **From a cancellation on** only unguarded calls are started. -/
theorem started_after_cancellation {before after : List (Exchange σ)} {x : Exchange σ}
    (log : e.world.log (engine.session request) s = before ++ x :: after)
    (cancelled : e.cancelled x.before = true) :
    ∀ y ∈ x :: after, e.cancelled y.before = true ∧
      ∀ c, y.answered.started? = some c → c.IsUnguarded := by
  intro y hy
  have found : e.cancelled y.before = true := by
    rcases List.mem_cons.1 hy with rfl | later
    · exact cancelled
    · exact e.cancelled_of_later log cancelled y later
  have mem : y ∈ e.world.log (engine.session request) s := by
    rw [log]
    exact List.mem_append_right before hy
  have heeds : y.answered.request.HeedsToken :=
    (yields_session (e.world.yields (engine.session request) s)).within_heedsToken y.answered
      (List.mem_map_of_mem mem)
  exact ⟨found, fun c started => e.started_of_cancelled mem found heeds started⟩

/-- **From a cancellation on** nothing is told but the rest of the last stretch and what comes after
the stretches. -/
theorem told_after_cancellation {registry : Registry} {ctx : StepContext}
    {stretches : List (Stretch σ)} {first last before after : List (Exchange σ)} {x : Exchange σ}
    (log : e.world.log (engine.session request) s = first ++ (stretches.flatMap (·.log) ++ last))
    (silent : reports first = [])
    (dispatch_each : ∀ y ∈ stretches, y.IsDispatch e registry ctx)
    (point : e.world.log (engine.session request) s = before ++ x :: after)
    (cancelled : e.cancelled x.before = true) :
    reports (x :: after) <:+ lastReports stretches ++ reports last := by
  have later : x :: after <:+ e.world.log (engine.session request) s := ⟨before, point.symm⟩
  rcases List.eq_nil_or_concat stretches with rfl | ⟨init, y, rfl⟩
  · have told := reports_suffix later
    rw [log, reports_append, silent, List.nil_append] at told
    exact told
  · rw [List.concat_eq_append] at log dispatch_each ⊢
    have tail : y.log ++ last <:+ e.world.log (engine.session request) s := by
      refine ⟨first ++ init.flatMap (·.log), ?_⟩
      rw [log, List.flatMap_append]
      simp
    have told : x :: after <:+ y.log ++ last := by
      rcases List.suffix_or_suffix_of_suffix later tail with within | beyond
      · exact within
      · -- a stretch that began after the point would have found the token cancelled
        obtain ⟨look, rest, split, -, free, -⟩ := dispatch_each y (by simp)
        obtain ⟨between, whole⟩ := beyond
        cases between with
        | nil => exact whole ▸ List.suffix_refl _
        | cons z between =>
          have looked : look ∈ after := by
            rw [← (List.cons.inj whole).2, split]
            simp
          have found := e.cancelled_of_later point cancelled look looked
          exact absurd found (by simp [free])
    have suffix := reports_suffix told
    rw [reports_append] at suffix
    simpa [lastReports] using suffix

/-- A session without steps goes along with its token. -/
theorem stopsAtCancellation_of_idle (idle : e.world.outcome? engine request s = none)
    (silent : reports (e.world.log (engine.session request) s) = []) :
    StopsAtCancellation e engine request s [] where
  log_eq := ⟨_, [], by simp, silent, by rw [idle]; rfl⟩
  step_eq := rfl
  dispatch_each := fun _ h => nomatch h
  block_each := fun _ h => nomatch h
  started_after _ _ _ log cancelled := started_after_cancellation e log cancelled
  told_after before x after log _ := by
    have later : x :: after <:+ e.world.log (engine.session request) s := ⟨before, log.symm⟩
    have told := reports_suffix later
    rw [silent, List.suffix_nil] at told
    rw [told]
    exact List.nil_suffix
  halted_iff := by simp [idle]
  cancelled_of_left _ reached := nomatch idle.symm.trans reached
  cancelled_only _ reached := nomatch idle.symm.trans reached

/-- A session that carries its steps out goes along with its token. -/
theorem stopsAtCancellation_of_ready {started : Nat}
    (ready : (e.world.run (engine.lead request) s).1 = (started, .ready)) :
    ∃ stretches, StopsAtCancellation e engine request s stretches := by
  obtain ⟨rest, windUp, log, run⟩ := World.run_session_of_ready ready
  have reached := World.outcome?_of_ready ready
  obtain ⟨stretches, goes⟩ := exists_stretches e engine.registry
    ⟨engine.config, request.data⟩ request.steps (e.world.ledTo engine request s)
  obtain ⟨others, parts, skipped⟩ := goes.log_eq
  have whole := log
  rw [Engine.stepping, parts, List.append_assoc] at whole
  have told : ∀ s', reports (others ++ e.world.log rest s') =
      skips ((e.world.outcome? engine request s).any (·.halted))
        (request.steps.drop stretches.length) := by
    intro s'
    rw [windUp, reports_append, World.reports_windUp, List.append_nil, skipped, reached]
    rfl
  refine ⟨stretches, ⟨⟨_, _, whole, World.reports_lead, told _⟩, goes.step_eq, goes.dispatch_each,
    fun x hx => (goes.dispatch_each x hx).isBlock,
    fun _ _ _ => started_after_cancellation e, fun _ _ _ point cancelled => ?_, ?_, ?_, ?_⟩⟩
  · rw [← told]
    exact told_after_cancellation e whole World.reports_lead goes.dispatch_each point cancelled
  · rw [reached]
    exact goes.halted_iff
  · intro o ho
    obtain rfl := Option.some.inj (reached.symm.trans ho)
    exact goes.cancelled_of_left
  · intro o ho cancelled
    obtain rfl := Option.some.inj (reached.symm.trans ho)
    rw [run]
    exact e.cancelled_run (goes.cancelled_only cancelled) rest

end

/-- **Every session stops at its cancellation**, in all surroundings. -/
theorem session_stopsAtCancellation (e : Surroundings σ) (engine : Engine) (request : RunRequest)
    (s : σ) : ∃ stretches, StopsAtCancellation e engine request s stretches := by
  cases reached : e.world.outcome? engine request s with
  | none => exact ⟨[], stopsAtCancellation_of_idle e reached (World.session_of_idle reached).1⟩
  | some outcome =>
    obtain ⟨started, ready⟩ := World.ready_of_outcome? reached
    exact stopsAtCancellation_of_ready e ready

end Playback
