import Mathlib.Data.List.Forall2
import Playback.Proofs.Interpreter.Course

/-!
# The event grammar of a run through steps

A consumer of progress events can rely on their order: the events of a run through steps are one
block for each dispatched step, and after a halt one `skipped` event for each remaining step.

* `IsBlock` — **the events of one dispatched step**: a failure alone if the step has no handler, and
  otherwise `processing` and one event that says how the step ended;
* `EventGrammar` — **blocks in the order of the steps**, and how the outcome counts them;
* `yields_eventGrammar`, `interpret_eventGrammar` — **the events of every run follow the grammar**,
  along every transcript and so in every world.
-/

namespace Playback

open Routine

/-- **The events of one dispatched step.** -/
inductive IsBlock (registry : Registry) (step : StepRecord) : List ProgressEvent → Prop where
  /-- The action is unknown or has no handler. -/
  | unhandled {e : ProgressEvent}
      (missing : ∀ a, step.action? = some a → registry.has a = false)
      (index : e.indexStep = step.indexStep) (status : e.status = .failed) :
      IsBlock registry step [e]
  /-- The action has a handler. -/
  | handled {a : Action} {p e : ProgressEvent} (action : step.action? = some a)
      (has : registry.has a = true) (index_first : p.indexStep = step.indexStep)
      (processing : p.status = .processing) (index_last : e.indexStep = step.indexStep)
      (terminal : e.status = .completed ∨ e.status = .failed) :
      IsBlock registry step [p, e]

/-- **The event grammar of a run through steps**: what the observer is told, in blocks, and what the
outcome says of it. -/
structure EventGrammar (registry : Registry) (steps : List StepRecord)
    (blocks : List (List ProgressEvent)) (events : List ProgressEvent) (outcome : RunOutcome) :
    Prop where
  /-- There is a block for each dispatched step, in the order of the steps. -/
  block_each : List.Forall₂ (IsBlock registry) (steps.take blocks.length) blocks
  /-- The events are the blocks and, after a halt, a `skipped` event for each remaining step. -/
  events_eq : events = blocks.flatten ++
    if outcome.halted then
      (steps.drop blocks.length).map fun step => .skipped step.indexStep step.label
    else []
  /-- The outcome counts the blocks. -/
  stepsDispatched_eq : outcome.stepsDispatched = blocks.length
  /-- The outcome names the step of the last block. -/
  lastIndexStep_eq :
    outcome.lastIndexStep = (steps.take blocks.length).getLast?.map (·.indexStep)
  /-- A run is not both halted and cancelled. -/
  not_both : ¬ (outcome.halted = true ∧ outcome.cancelled = true)
  /-- A run that is neither halted nor cancelled dispatches every step. -/
  complete : outcome.halted = false → outcome.cancelled = false → blocks.length = steps.length

/-! ## Blocks -/

/-- Work on the page tells the observer nothing. -/
theorem Transcript.Within.events_eq_nil {t : Transcript} (h : t.Within Request.IsWork) :
    t.events = [] := by
  refine List.filterMap_eq_nil_iff.2 fun x hx => ?_
  have work := h x hx
  obtain ⟨q, a⟩ := x
  cases q with
  | tell m => exact work.elim
  | shielded c => rfl
  | guarded c => rfl
  | inside c => rfl
  | check => rfl
  | clock => rfl
  | now => rfl

/-- **A handler tells its first report**, and the report of its outcome if it hands one back. -/
theorem events_of_yields_handler {a : Action} {ctx : StepContext} {step : StepRecord}
    {t : Transcript} {r : Except StepError ActionOutcome}
    (h : Yields (a.handler ctx step).run t r) :
    ∃ ends, t.events = .processing step.indexStep step.label :: ends ∧
      match r with
      | .ok o => ∃ e, ends = [e] ∧ o.Reported step.indexStep e
      | .error _ => ends = [] := by
  obtain ⟨started, u, rfl, ending⟩ := carries_handler a ctx step t r h
  refine ⟨Transcript.events u, rfl, ?_⟩
  cases ending with
  | returned within calm reported =>
    refine ⟨_, ?_, reported⟩
    rw [Transcript.events_append, within.events_eq_nil]
    rfl
  | broken within cancelled_iff => exact within.events_eq_nil

/-- **A dispatched step tells a block.** -/
theorem DispatchCourse.isBlock {registry : Registry} {ctx : StepContext} {step : StepRecord}
    {t : Transcript} {d : Dispatched} (h : DispatchCourse registry ctx step t d) :
    IsBlock registry step t.events := by
  cases h with
  | unhandled missing => exact .unhandled (Registry.handler?_eq_none missing) rfl rfl
  | returned found yields =>
    obtain ⟨a, action, has, rfl⟩ := Registry.handler?_eq_some found
    obtain ⟨ends, told, e, rfl, reported⟩ := events_of_yields_handler yields
    rw [Transcript.events_cons, told]
    refine .handled action has (step.substitute_indexStep ctx.data) rfl ?_ ?_
    · rw [reported.index_eq, StepRecord.substitute_indexStep]
    · rw [reported.status_eq]
      exact reported.isEnd.status
  | cancelled found yields =>
    obtain ⟨a, action, has, rfl⟩ := Registry.handler?_eq_some found
    obtain ⟨ends, told, rfl⟩ := events_of_yields_handler yields
    rw [List.cons_append, Transcript.events_cons, Transcript.events_append, told]
    exact .handled action has (step.substitute_indexStep ctx.data) rfl rfl (.inr rfl)
  | broken found fault yields =>
    obtain ⟨a, action, has, rfl⟩ := Registry.handler?_eq_some found
    obtain ⟨ends, told, rfl⟩ := events_of_yields_handler yields
    rw [List.cons_append, Transcript.events_cons, Transcript.events_append, told]
    exact .handled action has (step.substitute_indexStep ctx.data) rfl rfl (.inr rfl)

/-! ## Runs -/

namespace Course

variable {registry : Registry} {ctx : StepContext} {steps : List StepRecord} {legs : List Leg}
  {ending : Ending}

/-- **The legs are the first steps of the list**, in order, each dispatched. -/
theorem forall₂ (h : Course registry ctx steps legs ending) :
    List.Forall₂
      (fun step l => l.step = step ∧ DispatchCourse registry ctx step l.transcript l.ended)
      (steps.take legs.length) legs := by
  induction h with
  | finished => exact .nil
  | refused => exact .nil
  | interrupted dispatched => exact .cons ⟨rfl, dispatched⟩ .nil
  | halted dispatched policy => exact .cons ⟨rfl, dispatched⟩ .nil
  | next dispatched policy following ih => exact .cons ⟨rfl, dispatched⟩ ih

/-- Each leg dispatches its step. -/
theorem dispatch_of_mem (h : Course registry ctx steps legs ending) {l : Leg} (hl : l ∈ legs) :
    DispatchCourse registry ctx l.step l.transcript l.ended := by
  induction h with
  | finished => exact nomatch hl
  | refused => exact nomatch hl
  | interrupted dispatched => exact List.mem_singleton.1 hl ▸ dispatched
  | halted dispatched policy => exact List.mem_singleton.1 hl ▸ dispatched
  | next dispatched policy following ih =>
    rcases List.mem_cons.1 hl with rfl | hl
    · exact dispatched
    · exact ih hl

/-- The steps of the legs are the first steps of the list. -/
theorem map_step (h : Course registry ctx steps legs ending) :
    legs.map (·.step) = steps.take legs.length := by
  induction h with
  | finished => rfl
  | refused => rfl
  | interrupted dispatched => rfl
  | halted dispatched policy => rfl
  | next dispatched policy following ih =>
    rw [List.map_cons, ih, List.length_cons, List.take_succ_cons]

/-- A run that finished has a leg for each step. -/
theorem length_of_finished (h : Course registry ctx steps legs ending)
    (finished : ending = .finished) : legs.length = steps.length := by
  induction h with
  | finished => rfl
  | refused => exact nomatch finished
  | interrupted dispatched => exact nomatch finished
  | halted dispatched policy => exact nomatch finished
  | next dispatched policy following ih => rw [List.length_cons, List.length_cons, ih finished]

end Course

/-- Each leg counts as one step dispatched, and the last one is remembered. -/
theorem foldl_advance (legs : List Leg) (before : RunOutcome) :
    legs.foldl RunOutcome.advance before =
      { before with
        lastIndexStep := (legs.getLast?.map (·.step.indexStep)).or before.lastIndexStep
        stepsDispatched := before.stepsDispatched + legs.length } := by
  induction legs generalizing before with
  | nil => rfl
  | cons l legs ih =>
    rw [List.foldl_cons, ih, List.getLast?_cons]
    cases h : legs.getLast? with
    | none => simp [RunOutcome.advance, Nat.add_assoc, Nat.add_comm 1]
    | some last => simp [RunOutcome.advance, Nat.add_assoc, Nat.add_comm 1]

/-- **A run through steps is a course**, and its outcome tells the last leg, the number of legs and
the ending. -/
theorem yields_interpret {registry : Registry} {ctx : StepContext} {steps : List StepRecord}
    {outcome : RunOutcome} {t : Transcript} (h : Yields (interpret registry ctx steps) t outcome) :
    ∃ legs ending, Course registry ctx steps legs ending ∧
      t = legs.flatMap Leg.full ++ ending.tail (steps.drop legs.length) ∧
      outcome = ending.conclude
        { lastIndexStep := legs.getLast?.map (·.step.indexStep)
          stepsDispatched := legs.length } := by
  obtain ⟨legs, ending, course, rfl, rfl⟩ := yields_interpretFrom h
  refine ⟨legs, ending, course, rfl, ?_⟩
  rw [foldl_advance]
  simp

/-- The events of the legs are those of their dispatches. -/
theorem events_flatMap_full (legs : List Leg) :
    Transcript.events (legs.flatMap Leg.full) =
      (legs.map fun l => l.transcript.events).flatten := by
  induction legs with
  | nil => rfl
  | cons l legs ih =>
    rw [List.flatMap_cons, Transcript.events_append, ih]
    rfl

/-- After its legs a run tells of skipped steps if it halted, and otherwise nothing. -/
theorem Ending.events_tail (ending : Ending) (rest : List StepRecord) (outcome : RunOutcome)
    (h : outcome.halted = false) :
    Transcript.events (ending.tail rest) =
      if (ending.conclude outcome).halted then
        rest.map fun step => .skipped step.indexStep step.label
      else [] := by
  cases ending with
  | finished => simp [tail, conclude, h]
  | refused => simp [tail, conclude, h, Answered.event?, Answered.message?]
  | interrupted => simp [tail, conclude, h]
  | halted =>
    rw [tail, Transcript.events, List.filterMap_map]
    simp [conclude, Function.comp_def, Answered.report, Answered.event?, Answered.message?]

/-- **Along every transcript** the events of a run through steps follow the grammar. -/
theorem yields_eventGrammar {registry : Registry} {ctx : StepContext} {steps : List StepRecord}
    {outcome : RunOutcome} {t : Transcript} (h : Yields (interpret registry ctx steps) t outcome) :
    ∃ blocks, EventGrammar registry steps blocks t.events outcome := by
  obtain ⟨legs, ending, course, transcript, rfl⟩ := yields_interpret h
  refine ⟨legs.map fun l => l.transcript.events, ?_⟩
  constructor
  · rw [List.length_map, List.forall₂_map_right_iff]
    refine course.forall₂.imp fun step l hl => ?_
    exact hl.2.isBlock
  · rw [transcript, Transcript.events_append, events_flatMap_full, List.length_map]
    refine congrArg _ ?_
    exact Ending.events_tail ending _ _ rfl
  · rw [List.length_map]
    cases ending <;> rfl
  · rw [List.length_map, ← course.map_step, List.getLast?_map, Option.map_map]
    cases ending <;> rfl
  · cases ending <;> simp [Ending.conclude]
  · rw [List.length_map]
    intro notHalted notCancelled
    cases ending with
    | finished => exact course.length_of_finished rfl
    | refused => exact nomatch notCancelled
    | interrupted => exact nomatch notCancelled
    | halted => exact nomatch notHalted

/-- **The events of a run through steps follow the grammar**, in every world. -/
theorem interpret_eventGrammar {σ : Type} (w : World σ) (registry : Registry) (ctx : StepContext)
    (steps : List StepRecord) (s : σ) :
    ∃ blocks, EventGrammar registry steps blocks (w.events (interpret registry ctx steps) s)
      (w.run (interpret registry ctx steps) s).1 :=
  yields_eventGrammar (w.yields (interpret registry ctx steps) s)

/-! ## Consequences -/

/-- A block has one terminal event, and it is about the step. -/
theorem IsBlock.terminal_index {registry : Registry} {step : StepRecord}
    {block : List ProgressEvent} (h : IsBlock registry step block) :
    (block.filter (·.status.isTerminal)).map (·.indexStep) = [step.indexStep] := by
  cases h with
  | unhandled missing index status => simp [status, index, StepStatus.isTerminal]
  | handled action has index_first processing index_last terminal =>
    rcases terminal with status | status <;>
      simp [status, processing, index_last, StepStatus.isTerminal]

/-- No event of a block skips its step. -/
theorem IsBlock.status_ne_skipped {registry : Registry} {step : StepRecord}
    {block : List ProgressEvent} (h : IsBlock registry step block) {e : ProgressEvent}
    (he : e ∈ block) : e.status ≠ .skipped := by
  cases h with
  | unhandled missing index status =>
    rw [List.mem_singleton.1 he, status]
    exact StepStatus.noConfusion
  | handled action has index_first processing index_last terminal =>
    rcases List.mem_pair.1 he with rfl | rfl
    · rw [processing]
      exact StepStatus.noConfusion
    · rcases terminal with status | status <;> simp [status]

/-- Nothing but skips is told of steps that are skipped. -/
theorem filter_skips (rest : List StepRecord) :
    (rest.map fun step => ProgressEvent.skipped step.indexStep step.label).filter
      (·.status ≠ .skipped) = [] := by
  refine List.filter_eq_nil_iff.2 fun e he => ?_
  obtain ⟨step, -, rfl⟩ := List.mem_map.1 he
  exact of_decide_eq_false rfl

namespace EventGrammar

variable {registry : Registry} {steps : List StepRecord} {blocks : List (List ProgressEvent)}
  {events : List ProgressEvent} {outcome : RunOutcome}

/-- **The terminal events go through the steps in order**, one for each step dispatched, and after a
halt one for each step of the list. -/
theorem terminal_index (h : EventGrammar registry steps blocks events outcome) :
    (events.filter (·.status.isTerminal)).map (·.indexStep) =
      (if outcome.halted then steps else steps.take blocks.length).map (·.indexStep) := by
  have dispatched : ∀ {ss : List StepRecord} {bs : List (List ProgressEvent)},
      List.Forall₂ (IsBlock registry) ss bs →
      (bs.flatten.filter (·.status.isTerminal)).map (·.indexStep) = ss.map (·.indexStep) := by
    intro ss bs each
    induction each with
    | nil => rfl
    | cons block _ ih =>
      rw [List.flatten_cons, List.filter_append, List.map_append, block.terminal_index, ih]
      rfl
  have skipped : ∀ rest : List StepRecord,
      ((rest.map fun step => ProgressEvent.skipped step.indexStep step.label).filter
        (·.status.isTerminal)).map (·.indexStep) = rest.map (·.indexStep) := by
    intro rest
    induction rest with
    | nil => rfl
    | cons step rest ih => exact congrArg (step.indexStep :: ·) ih
  rw [h.events_eq, List.filter_append, List.map_append, dispatched h.block_each]
  split
  · rw [skipped, ← List.map_append, List.take_append_drop]
  · exact List.append_nil _

/-- Each block is that of a step. -/
theorem exists_isBlock (h : EventGrammar registry steps blocks events outcome)
    {block : List ProgressEvent} (mem : block ∈ blocks) :
    ∃ step, IsBlock registry step block := by
  obtain ⟨i, hi, rfl⟩ := List.getElem_of_mem mem
  exact ⟨_, h.block_each.get (Nat.lt_of_lt_of_eq hi h.block_each.length_eq.symm) hi⟩

/-- No event of a dispatched step skips it. -/
theorem status_ne_skipped_of_mem_flatten (h : EventGrammar registry steps blocks events outcome)
    {e : ProgressEvent} (he : e ∈ blocks.flatten) : e.status ≠ .skipped := by
  obtain ⟨block, mem, he⟩ := List.mem_flatten.1 he
  obtain ⟨step, isBlock⟩ := h.exists_isBlock mem
  exact isBlock.status_ne_skipped he

/-- Without a halt no step is skipped. -/
theorem status_ne_skipped (h : EventGrammar registry steps blocks events outcome)
    (goesOn : outcome.halted = false) {e : ProgressEvent} (he : e ∈ events) :
    e.status ≠ .skipped := by
  rw [h.events_eq, if_neg (by simp [goesOn]), List.append_nil] at he
  exact h.status_ne_skipped_of_mem_flatten he

end EventGrammar

end Playback
