import Mathlib.Data.Finset.Card
import Mathlib.Data.Finset.Dedup
import Mathlib.Data.List.Nodup
import Playback.Proofs.Ledger.Latest

/-!
# Counting step numbers by their last status

A reader of a stream of events can count for himself what a ledger counts: the step numbers by the
last terminal status that is reported of them.

* `lastStatus?` — **the last terminal status** that some events report of a number;
* `tally` — **how many distinct numbers have a status as their last**; `tally_eq_length` says that
  any list of those numbers has that length;
* `Ledger.countOf_ofEvents` — the ledger of some events counts the same;
* `tally_of_nodup` — where no number has two terminal events, numbers are counted by events.
-/

namespace Playback

/-- **The last terminal status** that some events report of a number. -/
def lastStatus? (events : List ProgressEvent) (index : UInt32) : Option StepStatus :=
  (events.filter fun e => e.indexStep = index ∧ e.status.isTerminal).getLast?.map (·.status)

/-- **How many distinct numbers** have a status as their last. -/
def tally (events : List ProgressEvent) (status : StepStatus) : Nat :=
  ((events.map (·.indexStep)).toFinset.filter fun i => lastStatus? events i = some status).card

section

variable {events : List ProgressEvent} {index : UInt32} {status : StepStatus}

/-- One more event is the last word on its number, if it is terminal. -/
theorem lastStatus?_concat (e : ProgressEvent) :
    lastStatus? (events ++ [e]) index =
      if e.indexStep = index ∧ e.status.isTerminal then some e.status
      else lastStatus? events index := by
  rw [lastStatus?, List.filter_append, List.filter_singleton]
  split
  · next said => simp [said]
  · next silent => simp [silent, lastStatus?]

/-- The last status of a number is that of a terminal event about it. -/
theorem exists_mem_of_lastStatus? (h : lastStatus? events index = some status) :
    ∃ e ∈ events, e.indexStep = index ∧ e.status.isTerminal ∧ e.status = status := by
  obtain ⟨e, last, same⟩ := Option.map_eq_some_iff.1 h
  have mem := List.mem_filter.1 (List.mem_of_getLast? last)
  have said : e.indexStep = index ∧ e.status.isTerminal = true := by simpa using mem.2
  exact ⟨e, mem.1, said.1, said.2, same⟩

/-- A number has a last status if there is a terminal event about it. -/
theorem exists_lastStatus? {e : ProgressEvent} (mem : e ∈ events)
    (terminal : e.status.isTerminal = true) : ∃ s, lastStatus? events e.indexStep = some s := by
  have said : e ∈ events.filter fun f => f.indexStep = e.indexStep ∧ f.status.isTerminal :=
    List.mem_filter.2 ⟨mem, by simp [terminal]⟩
  exact ⟨_, by rw [lastStatus?, List.getLast?_eq_some_getLast (List.ne_nil_of_mem said)]; rfl⟩

/-- **A list of the numbers** with a status as their last, each of them once, has the length of the
tally. -/
theorem tally_eq_length {numbers : List UInt32} (distinct : numbers.Nodup)
    (mem_iff : ∀ i, i ∈ numbers ↔ lastStatus? events i = some status) :
    tally events status = numbers.length := by
  rw [← List.toFinset_card_of_nodup distinct, tally]
  refine congrArg Finset.card (Finset.ext fun i => ?_)
  rw [Finset.mem_filter, List.mem_toFinset, List.mem_toFinset, mem_iff]
  refine and_iff_right_of_imp fun last => ?_
  obtain ⟨e, mem, index, -⟩ := exists_mem_of_lastStatus? last
  exact List.mem_map.2 ⟨e, mem, index⟩

end

namespace Ledger

variable {events : List ProgressEvent} {index : UInt32} {status : StepStatus}

/-- **The ledger of some events** gives a number its last terminal status. -/
theorem status?_ofEvents_eq_some_iff (terminal : status.isTerminal = true) :
    (ofEvents events).status? index = some status ↔ lastStatus? events index = some status := by
  -- by induction on the latest event, which speaks for its own number and for no other
  induction events using List.reverseRecOn with
  | nil => exact Iff.rfl
  | append_singleton events e ih =>
    have recorded : ofEvents (events ++ [e]) = (ofEvents events).recordEvent e := by
      rw [ofEvents, List.foldl_append]
      rfl
    rw [recorded, status?_recordEvent (sorted_ofEvents events), lastStatus?_concat]
    by_cases same : index = e.indexStep
    · subst same
      by_cases final : e.status.isTerminal = true
      · simp [after, final]
      · -- a report that is not terminal leaves the status of a number that has one
        have kept : (((ofEvents events).status? e.indexStep).getD .processing = status) ↔
            (ofEvents events).status? e.indexStep = some status := by
          cases (ofEvents events).status? e.indexStep with
          | none =>
            refine iff_of_false (fun h => ?_) (Option.some_ne_none status).symm
            subst h
            exact Bool.false_ne_true terminal
          | some s => exact Option.some_inj.symm
        simpa [after, final, kept] using ih
    · have other : ¬ (e.indexStep = index ∧ e.status.isTerminal = true) :=
        fun said => same said.1.symm
      rw [if_neg same, if_neg other]
      exact ih

/-- **The ledger of some events counts** the numbers by their last status. -/
theorem countOf_ofEvents (terminal : status.isTerminal = true) :
    (ofEvents events).countOf status = tally events status := by
  have sorted := sorted_ofEvents events
  let numbers := ((ofEvents events).entries.filter (·.2 == status)).map (·.1)
  have distinct : numbers.Nodup := by
    refine List.Nodup.sublist (List.filter_sublist.map _) ?_
    exact List.pairwise_map.2 (sorted.imp fun less => UInt32.ne_of_lt less)
  have mem_iff : ∀ i, i ∈ numbers ↔ lastStatus? events i = some status := by
    intro i
    rw [← status?_ofEvents_eq_some_iff terminal, List.mem_map]
    constructor
    · rintro ⟨⟨i', s⟩, kept, rfl⟩
      obtain ⟨entry, same⟩ := List.mem_filter.1 kept
      exact beq_iff_eq.1 same ▸ sorted.status?_eq_of_mem entry
    · intro has
      exact ⟨_, List.mem_filter.2 ⟨mem_of_status?_eq has, beq_self_eq_true status⟩, rfl⟩
  rw [tally_eq_length distinct mem_iff, countOf, List.countP_eq_length_filter, List.length_map]

end Ledger

/-- **Where no number has two terminal events**, the numbers with a last status are as many as the
events with that status. -/
theorem tally_of_nodup {events : List ProgressEvent} {status : StepStatus}
    (terminal : status.isTerminal = true)
    (once : ((events.filter (·.status.isTerminal)).map (·.indexStep)).Nodup) :
    tally events status = events.countP (·.status = status) := by
  have said : ∀ {e : ProgressEvent}, e.status = status → e.status.isTerminal = true :=
    fun same => by rw [same]; exact terminal
  let numbers := (events.filter (·.status = status)).map (·.indexStep)
  have distinct : numbers.Nodup := by
    refine List.Nodup.sublist (List.Sublist.map _ ?_) once
    refine List.monotone_filter_right events fun e same => ?_
    exact said (by simpa using same)
  have mem_iff : ∀ i, i ∈ numbers ↔ lastStatus? events i = some status := by
    intro i
    rw [List.mem_map]
    constructor
    · rintro ⟨e, kept, rfl⟩
      obtain ⟨mem, same⟩ := List.mem_filter.1 kept
      have same : e.status = status := of_decide_eq_true same
      -- the event with the last word on the number can be no other
      obtain ⟨s, last⟩ := exists_lastStatus? mem (said same)
      obtain ⟨f, other, index, final, rfl⟩ := exists_mem_of_lastStatus? last
      have unique : f = e := List.inj_on_of_nodup_map once
        (List.mem_filter.2 ⟨other, final⟩) (List.mem_filter.2 ⟨mem, said same⟩) index
      rw [last, unique, same]
    · intro last
      obtain ⟨e, mem, index, -, same⟩ := exists_mem_of_lastStatus? last
      exact ⟨e, List.mem_filter.2 ⟨mem, decide_eq_true same⟩, index⟩
  rw [tally_eq_length distinct mem_iff, List.countP_eq_length_filter, List.length_map]

end Playback
