import Playback.Proofs.Interpreter.Grammar

/-!
# What the events of a run through steps say of its outcome

The outcome of a run through steps can be read off the events it reports, and so can what cut it
short.

* `EventGrammar.exists_terminal` — **no step number stays open**;
* `EventGrammar.lastIndexStep_eq_getLast?` — the last step dispatched is that of the last event that
  skips none;
* `EventGrammar.countP_dispatched`, `EventGrammar.countP_skipped` — **the events count** the steps
  that were dispatched and those that were skipped;
* `exists_failed_of_cut` — **a run that is cut short reports a failure**, unless it was cancelled
  before its last step;
* `Balance`, `yields_balance` — **how the counts agree with the outcome**, in every run.
-/

namespace Playback

open Routine

/-! ## Blocks -/

namespace IsBlock

variable {registry : Registry} {step : StepRecord} {block : List ProgressEvent}

/-- Every event of a block is about its step. -/
theorem index_eq (h : IsBlock registry step block) {e : ProgressEvent} (he : e ∈ block) :
    e.indexStep = step.indexStep := by
  cases h with
  | unhandled missing index status => rw [List.mem_singleton.1 he, index]
  | handled action has index_first processing index_last terminal =>
    rcases List.mem_pair.1 he with rfl | rfl
    · exact index_first
    · exact index_last

/-- A block has a terminal event. -/
theorem exists_terminal (h : IsBlock registry step block) :
    ∃ e ∈ block, e.status.isTerminal = true := by
  have one : step.indexStep ∈ (block.filter (·.status.isTerminal)).map (·.indexStep) := by
    rw [h.terminal_index]
    exact List.mem_singleton_self _
  obtain ⟨e, mem, -⟩ := List.mem_map.1 one
  exact ⟨e, List.mem_filter.1 mem⟩

/-- The last event of a block is about its step. -/
theorem getLast?_index (h : IsBlock registry step block) :
    block.getLast?.map (·.indexStep) = some step.indexStep := by
  obtain ⟨e, mem, -⟩ := h.exists_terminal
  have nonempty : block ≠ [] := List.ne_nil_of_mem mem
  rw [List.getLast?_eq_some_getLast nonempty, Option.map_some,
    h.index_eq (List.getLast_mem nonempty)]

end IsBlock

/-! ## The events and the outcome -/

/-- A terminal event completes, fails or skips its step. -/
theorem countP_isTerminal (events : List ProgressEvent) :
    events.countP (·.status.isTerminal) = events.countP (·.status = .completed) +
      events.countP (·.status = .failed) + events.countP (·.status = .skipped) := by
  induction events with
  | nil => rfl
  | cons e events ih =>
    rw [List.countP_cons, List.countP_cons, List.countP_cons, List.countP_cons, ih]
    cases e.status <;> simp [StepStatus.isTerminal] <;> omega

namespace EventGrammar

variable {registry : Registry} {steps : List StepRecord} {blocks : List (List ProgressEvent)}
  {events : List ProgressEvent} {outcome : RunOutcome}

/-- No more steps are dispatched than there are. -/
theorem length_le (h : EventGrammar registry steps blocks events outcome) :
    blocks.length ≤ steps.length := by
  have taken := h.block_each.length_eq
  rw [List.length_take] at taken
  omega

/-- **No step number stays open**: for each event there is a terminal event about its step. -/
theorem exists_terminal (h : EventGrammar registry steps blocks events outcome)
    {e : ProgressEvent} (he : e ∈ events) :
    ∃ f ∈ events, f.indexStep = e.indexStep ∧ f.status.isTerminal = true := by
  rw [h.events_eq] at he ⊢
  rcases List.mem_append.1 he with he | he
  · obtain ⟨block, mem, he⟩ := List.mem_flatten.1 he
    obtain ⟨step, isBlock⟩ := h.exists_isBlock mem
    obtain ⟨f, hf, terminal⟩ := isBlock.exists_terminal
    refine ⟨f, List.mem_append_left _ (List.mem_flatten.2 ⟨block, mem, hf⟩), ?_, terminal⟩
    rw [isBlock.index_eq hf, isBlock.index_eq he]
  · refine ⟨e, List.mem_append_right _ he, rfl, ?_⟩
    split at he
    · obtain ⟨step, -, rfl⟩ := List.mem_map.1 he
      rfl
    · exact nomatch he

/-- **The events that skip no step** are those of the dispatched steps. -/
theorem filter_ne_skipped (h : EventGrammar registry steps blocks events outcome) :
    events.filter (·.status ≠ .skipped) = blocks.flatten := by
  have dispatched : blocks.flatten.filter (·.status ≠ .skipped) = blocks.flatten :=
    List.filter_eq_self.2 fun e he => by simpa using h.status_ne_skipped_of_mem_flatten he
  rw [h.events_eq, List.filter_append, dispatched]
  split
  · rw [filter_skips, List.append_nil]
  · exact List.append_nil _

/-- **The last step dispatched** is that of the last event that skips none. -/
theorem lastIndexStep_eq_getLast? (h : EventGrammar registry steps blocks events outcome) :
    outcome.lastIndexStep =
      (events.filter (·.status ≠ .skipped)).getLast?.map (·.indexStep) := by
  have last : ∀ {ss : List StepRecord} {bs : List (List ProgressEvent)},
      List.Forall₂ (IsBlock registry) ss bs →
      ss.getLast?.map (·.indexStep) = bs.flatten.getLast?.map (·.indexStep) := by
    intro ss bs each
    induction each with
    | nil => rfl
    | @cons step block ss bs isBlock _ ih =>
      -- a block is never empty, so the last event is in the block of the last step
      rw [List.flatten_cons, List.getLast?_append, Option.map_or, isBlock.getLast?_index, ← ih,
        ← List.singleton_append, List.getLast?_append, Option.map_or]
      rfl
  rw [h.filter_ne_skipped, h.lastIndexStep_eq, last h.block_each]

/-- **After a halt** the steps that were not dispatched are skipped, and no others ever. -/
theorem countP_skipped (h : EventGrammar registry steps blocks events outcome) :
    events.countP (·.status = .skipped) =
      if outcome.halted then steps.length - outcome.stepsDispatched else 0 := by
  have dispatched : blocks.flatten.countP (·.status = .skipped) = 0 :=
    List.countP_eq_zero.2 fun e he => by simpa using h.status_ne_skipped_of_mem_flatten he
  rw [h.stepsDispatched_eq, h.events_eq, List.countP_append, dispatched, Nat.zero_add]
  split
  · rw [List.countP_map, ← List.length_drop]
    exact List.countP_eq_length.2 fun step _ => rfl
  · rfl

/-- **The steps dispatched are completed or failed**, each of them once. -/
theorem countP_dispatched (h : EventGrammar registry steps blocks events outcome) :
    events.countP (·.status = .completed) + events.countP (·.status = .failed) =
      outcome.stepsDispatched := by
  have terminal : events.countP (·.status.isTerminal) =
      (if outcome.halted then steps else steps.take blocks.length).length := by
    rw [List.countP_eq_length_filter, ← List.length_map (·.indexStep), h.terminal_index,
      List.length_map]
  have skipped := h.countP_skipped
  have le := h.length_le
  rw [countP_isTerminal] at terminal
  rw [h.stepsDispatched_eq] at skipped ⊢
  split at terminal
  · next halted =>
    rw [if_pos halted] at skipped
    omega
  · next goesOn =>
    rw [if_neg goesOn] at skipped
    rw [List.length_take] at terminal
    omega

end EventGrammar

/-! ## Failures -/

/-- **A step that ends more than itself** reports a failure: it aborts the test or is cancelled. -/
theorem DispatchCourse.exists_failed {registry : Registry} {ctx : StepContext} {step : StepRecord}
    {t : Transcript} {d : Dispatched} (h : DispatchCourse registry ctx step t d)
    (cut : d ≠ .ended false) : ∃ e ∈ t.events, e.status = .failed := by
  cases h with
  | unhandled missing => exact absurd rfl cut
  | @returned handler started t outcome found yields =>
    obtain ⟨a, action, has, rfl⟩ := Registry.handler?_eq_some found
    obtain ⟨ends, told, e, rfl, reported⟩ := events_of_yields_handler yields
    rw [Transcript.events_cons, told]
    refine ⟨e, List.mem_append_right _ (List.mem_cons_of_mem _ List.mem_cons_self), ?_⟩
    rw [reported.status_eq]
    rcases reported.isEnd with rfl | ⟨error, rfl | rfl⟩
    · exact absurd rfl cut
    · rfl
    · rfl
  | cancelled found yields =>
    rw [Transcript.events_append]
    exact ⟨_, List.mem_append_right _ List.mem_cons_self, rfl⟩
  | broken found fault yields =>
    rw [Transcript.events_append]
    exact ⟨_, List.mem_append_right _ List.mem_cons_self, rfl⟩

namespace Course

variable {registry : Registry} {ctx : StepContext} {steps : List StepRecord} {legs : List Leg}
  {ending : Ending}

/-- A run that is refused has a step that was not dispatched. -/
theorem length_lt_of_refused (h : Course registry ctx steps legs ending)
    (refused : ending = .refused) : legs.length < steps.length := by
  induction h with
  | finished => exact nomatch refused
  | refused => exact Nat.succ_pos _
  | interrupted dispatched => exact nomatch refused
  | halted dispatched policy => exact nomatch refused
  | next dispatched policy following ih => exact Nat.succ_lt_succ (ih refused)

/-- A run that is interrupted or halts does so in one of its legs. -/
theorem exists_leg_of_cut (h : Course registry ctx steps legs ending)
    (cut : ending = .interrupted ∨ ending = .halted) : ∃ l ∈ legs, l.ended ≠ .ended false := by
  induction h with
  | finished => exact absurd cut (by decide)
  | refused => exact absurd cut (by decide)
  | interrupted dispatched => exact ⟨_, List.mem_cons_self, Dispatched.noConfusion⟩
  | halted dispatched policy => exact ⟨_, List.mem_cons_self, by simp⟩
  | next dispatched policy following ih =>
    obtain ⟨l, mem, ended⟩ := ih cut
    exact ⟨l, List.mem_cons_of_mem _ mem, ended⟩

end Course

/-- **A run that is cut short reports a failure**: it halted, or it was cancelled although all its
steps were dispatched. -/
theorem exists_failed_of_cut {registry : Registry} {ctx : StepContext} {steps : List StepRecord}
    {outcome : RunOutcome} {t : Transcript} (h : Yields (interpret registry ctx steps) t outcome)
    (cut : outcome.halted = true ∨
      outcome.cancelled = true ∧ outcome.stepsDispatched = steps.length) :
    ∃ e ∈ t.events, e.status = .failed := by
  obtain ⟨legs, ending, course, transcript, rfl⟩ := yields_interpret h
  have ended : ending = .interrupted ∨ ending = .halted := by
    cases ending with
    | finished => simp [Ending.conclude] at cut
    | refused =>
      have all : legs.length = steps.length := by simpa [Ending.conclude] using cut
      exact absurd all (Nat.ne_of_lt (course.length_lt_of_refused rfl))
    | interrupted => exact .inl rfl
    | halted => exact .inr rfl
  obtain ⟨l, mem, early⟩ := course.exists_leg_of_cut ended
  obtain ⟨e, told, failed⟩ := (course.dispatch_of_mem mem).exists_failed early
  refine ⟨e, ?_, failed⟩
  rw [transcript, Transcript.events_append, events_flatMap_full]
  exact List.mem_append_left _ (List.mem_flatten.2 ⟨_, List.mem_map.2 ⟨l, mem, rfl⟩, told⟩)

/-! ## The balance -/

/-- **The balance of a run through steps**: how counts of the steps that completed, failed and were
skipped agree with its outcome. -/
structure Balance (outcome : RunOutcome) (total completed failed skipped : Nat) : Prop where
  /-- Each step dispatched completed or failed. -/
  dispatched : completed + failed = outcome.stepsDispatched
  /-- After a halt the other steps are skipped. -/
  skipped_eq : skipped = if outcome.halted then total - outcome.stepsDispatched else 0
  /-- No more steps are dispatched than there are. -/
  within : outcome.stepsDispatched ≤ total
  /-- A run that is neither halted nor cancelled dispatches every step. -/
  complete : outcome.halted = false → outcome.cancelled = false → outcome.stepsDispatched = total
  /-- A run that is cut short has a failed step, unless it was cancelled before its last step. -/
  cut : outcome.halted = true ∨ outcome.cancelled = true ∧ outcome.stepsDispatched = total →
    0 < failed

namespace Balance

variable {outcome : RunOutcome} {total completed failed skipped : Nat}

/-- **Without a cancellation** every step is counted. -/
theorem sum_eq (h : Balance outcome total completed failed skipped)
    (calm : outcome.cancelled = false) : completed + failed + skipped = total := by
  rw [h.dispatched, h.skipped_eq]
  split
  · exact Nat.add_sub_cancel' h.within
  · next goesOn => exact h.complete (Bool.eq_false_iff.2 goesOn) calm

/-- **All steps completed** exactly if the run was not cut short and none of them failed. -/
theorem completed_eq_iff (h : Balance outcome total completed failed skipped) :
    completed = total ↔
      outcome.cancelled = false ∧ outcome.halted = false ∧ failed = 0 := by
  have dispatched := h.dispatched
  have within := h.within
  constructor
  · intro all
    -- no step is left over for a failure
    have noneFailed : failed = 0 := by omega
    have whole : outcome.stepsDispatched = total := by omega
    obtain ⟨goesOn, calm⟩ := not_or.1 fun cut => Nat.ne_of_gt (h.cut cut) noneFailed
    exact ⟨Bool.eq_false_iff.2 fun cancelled => calm ⟨cancelled, whole⟩,
      Bool.eq_false_iff.2 goesOn, noneFailed⟩
  · rintro ⟨calm, goesOn, noneFailed⟩
    rw [← h.complete goesOn calm, ← dispatched, noneFailed, Nat.add_zero]

end Balance

/-- **The events of every run through steps balance** its outcome. -/
theorem yields_balance {registry : Registry} {ctx : StepContext} {steps : List StepRecord}
    {outcome : RunOutcome} {t : Transcript} (h : Yields (interpret registry ctx steps) t outcome) :
    Balance outcome steps.length (t.events.countP (·.status = .completed))
      (t.events.countP (·.status = .failed)) (t.events.countP (·.status = .skipped)) := by
  obtain ⟨blocks, grammar⟩ := yields_eventGrammar h
  have blocks_eq := grammar.stepsDispatched_eq
  exact {
    dispatched := grammar.countP_dispatched
    skipped_eq := grammar.countP_skipped
    within := blocks_eq ▸ grammar.length_le
    complete := blocks_eq ▸ grammar.complete
    cut := fun cut => by
      obtain ⟨e, mem, failed⟩ := exists_failed_of_cut h cut
      exact List.countP_pos_iff.2 ⟨e, mem, decide_eq_true failed⟩ }

end Playback
