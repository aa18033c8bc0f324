import Playback.Run.Ledger

/-!
# What a ledger says

The entries of a ledger are sorted by number, so that a number has at most one of them, and the
ledger of some events gives a number the status of the last terminal event about it.

* `Ledger.Sorted` — **the invariant of the entries**, which every report keeps;
* `Ledger.status?_recordEvent` — a report changes the status of its own number and of no other;
* `Ledger.status?_ofEvents_of_last` — **the last terminal event about a number stands**;
* `Ledger.countOf_eq_zero` — a count is zero exactly when no number has the status.
-/

namespace Playback

namespace Ledger

variable {index i : UInt32} {f : Option StepStatus → StepStatus}
  {entries : List (UInt32 × StepStatus)} {l : Ledger}

/-! ## Entries -/

/-- **The entries are in ascending order** of their numbers, without repetition. -/
def Sorted (l : Ledger) : Prop := l.entries.Pairwise fun a b => a.1 < b.1

/-- An altered list has the numbers of the list and the one altered. -/
theorem mem_alterEntry {e : UInt32 × StepStatus} (h : e ∈ alterEntry index f entries) :
    e.1 = index ∨ e ∈ entries := by
  induction entries with
  | nil => exact .inl (congrArg Prod.fst (List.mem_singleton.1 h))
  | cons head rest ih =>
    unfold alterEntry at h
    split at h
    · rcases List.mem_cons.1 h with rfl | h
      · exact .inl rfl
      · exact .inr h
    · split at h
      · next same =>
        rcases List.mem_cons.1 h with rfl | h
        · exact .inl same.symm
        · exact .inr (List.mem_cons_of_mem _ h)
      · rcases List.mem_cons.1 h with rfl | h
        · exact .inr List.mem_cons_self
        · exact (ih h).imp_right (List.mem_cons_of_mem _)

/-- Altering an entry keeps the order. -/
theorem pairwise_alterEntry (h : entries.Pairwise fun a b => a.1 < b.1) :
    (alterEntry index f entries).Pairwise fun a b => a.1 < b.1 := by
  induction entries with
  | nil => exact List.pairwise_singleton _ _
  | cons head rest ih =>
    obtain ⟨above, sorted⟩ := List.pairwise_cons.1 h
    unfold alterEntry
    split
    · next less =>
      refine List.pairwise_cons.2 ⟨fun e he => ?_, h⟩
      rcases List.mem_cons.1 he with rfl | he
      · exact less
      · exact UInt32.lt_trans less (above e he)
    · split
      · exact List.pairwise_cons.2 ⟨above, sorted⟩
      · next notLess differs =>
        refine List.pairwise_cons.2 ⟨fun e he => ?_, ih sorted⟩
        rcases mem_alterEntry he with same | he
        · rw [same]
          exact UInt32.lt_of_le_of_ne (UInt32.not_lt.1 notLess) (Ne.symm differs)
        · exact above e he

/-- The entry of another number is left as it is. -/
theorem find?_alterEntry_of_ne (h : i ≠ index) :
    (alterEntry index f entries).find? (·.1 == i) = entries.find? (·.1 == i) := by
  have passed : (index == i) = false := beq_false_of_ne (Ne.symm h)
  induction entries with
  | nil => simp [alterEntry, passed]
  | cons head rest ih =>
    unfold alterEntry
    split
    · simp [List.find?_cons, passed]
    · split
      · next same => simp [← same, passed]
      · simp [List.find?_cons, ih]

/-- The entry of the number itself is made from what was there. -/
theorem find?_alterEntry_self (h : entries.Pairwise fun a b => a.1 < b.1) :
    (alterEntry index f entries).find? (·.1 == index) =
      some (index, f ((entries.find? (·.1 == index)).map (·.2))) := by
  induction entries with
  | nil => simp [alterEntry]
  | cons head rest ih =>
    obtain ⟨above, sorted⟩ := List.pairwise_cons.1 h
    unfold alterEntry
    split
    · next less =>
      -- all numbers of the list are greater, so the number has no entry yet
      have absent : (head :: rest).find? (·.1 == index) = none := by
        refine List.find?_eq_none.2 fun e he => ?_
        have greater : index < e.1 := by
          rcases List.mem_cons.1 he with rfl | he
          · exact less
          · exact UInt32.lt_trans less (above e he)
        simpa using (UInt32.ne_of_lt greater).symm
      rw [absent]
      simp
    · split
      · next same => simp [same]
      · next notLess differs =>
        have passed : (head.1 == index) = false := beq_false_of_ne (Ne.symm differs)
        simp [passed, ih sorted]

/-! ## Reports -/

/-- The empty ledger is sorted. -/
theorem sorted_empty : Sorted {} := List.Pairwise.nil

/-- A report keeps a ledger sorted. -/
theorem Sorted.recordEvent (h : l.Sorted) (e : ProgressEvent) : (l.recordEvent e).Sorted :=
  pairwise_alterEntry h

/-- Reports keep a ledger sorted. -/
theorem Sorted.foldl_recordEvent (h : l.Sorted) (events : List ProgressEvent) :
    (events.foldl Ledger.recordEvent l).Sorted := by
  induction events generalizing l with
  | nil => exact h
  | cons e events ih => exact ih (h.recordEvent e)

/-- The ledger of some events is sorted. -/
theorem sorted_ofEvents (events : List ProgressEvent) : (ofEvents events).Sorted :=
  sorted_empty.foldl_recordEvent events

/-- **A report changes the status of its number** and of no other. -/
theorem status?_recordEvent (h : l.Sorted) (e : ProgressEvent) (i : UInt32) :
    (l.recordEvent e).status? i =
      if i = e.indexStep then some (after e.status (l.status? i)) else l.status? i := by
  rw [recordEvent, record, status?]
  split
  · next same =>
    rw [same, find?_alterEntry_self h]
    rfl
  · next differs =>
    rw [find?_alterEntry_of_ne differs]
    rfl

/-- A terminal status stands when all later terminal events about the number agree with it. -/
theorem status?_foldl_of_agree {status : StepStatus} (sorted : l.Sorted)
    (h : l.status? index = some status) {events : List ProgressEvent}
    (agree : ∀ e ∈ events, e.indexStep = index → e.status.isTerminal → e.status = status) :
    (events.foldl recordEvent l).status? index = some status := by
  induction events generalizing l with
  | nil => exact h
  | cons e events ih =>
    obtain ⟨first, rest⟩ := List.forall_mem_cons.1 agree
    refine ih (sorted.recordEvent e) ?_ rest
    rw [status?_recordEvent sorted]
    split
    · next same =>
      rw [after, h]
      split
      · next terminal => rw [first same.symm terminal]
      · rfl
    · exact h

/-- **The last terminal event about a number stands**, also when events that agree with it
follow. -/
theorem status?_ofEvents_of_last {before rest : List ProgressEvent} {e : ProgressEvent}
    (terminal : e.status.isTerminal)
    (agree : ∀ f ∈ rest, f.indexStep = e.indexStep → f.status.isTerminal → f.status = e.status) :
    (ofEvents (before ++ e :: rest)).status? e.indexStep = some e.status := by
  rw [ofEvents, List.foldl_append, List.foldl_cons]
  have sorted : (before.foldl recordEvent {}).Sorted := sorted_empty.foldl_recordEvent before
  refine status?_foldl_of_agree (sorted.recordEvent e) ?_ agree
  rw [status?_recordEvent sorted, if_pos rfl, after, if_pos terminal]

/-! ## Counts -/

/-- A number that has a status has an entry. -/
theorem mem_of_status?_eq {status : StepStatus} (h : l.status? index = some status) :
    (index, status) ∈ l.entries := by
  rw [status?, Option.map_eq_some_iff] at h
  obtain ⟨⟨i, s⟩, found, rfl⟩ := h
  have same : i = index := by simpa using List.find?_some found
  exact same ▸ List.mem_of_find?_eq_some found

/-- In a sorted ledger an entry is the status of its number. -/
theorem Sorted.status?_eq_of_mem {status : StepStatus} (h : l.Sorted)
    (mem : (index, status) ∈ l.entries) : l.status? index = some status := by
  obtain ⟨before, rest, split⟩ := List.append_of_mem mem
  have sorted : (before ++ (index, status) :: rest).Pairwise fun a b => a.1 < b.1 := split ▸ h
  have less : ∀ e ∈ before, ¬ (e.1 == index) = true := by
    intro e he same
    have lt := (List.pairwise_append.1 sorted).2.2 e he (index, status) List.mem_cons_self
    exact UInt32.ne_of_lt lt (beq_iff_eq.1 same)
  rw [status?, split, List.find?_append, List.find?_eq_none.2 less]
  simp

/-- **A count is zero** exactly when no number has the status. -/
theorem Sorted.countOf_eq_zero (h : l.Sorted) {status : StepStatus} :
    l.countOf status = 0 ↔ ∀ index, l.status? index ≠ some status := by
  rw [countOf, List.countP_eq_zero]
  constructor
  · intro none index has
    exact none _ (mem_of_status?_eq has) (beq_self_eq_true status)
  · intro none e mem same
    exact none e.1 (h.status?_eq_of_mem (beq_iff_eq.1 same ▸ mem))

end Ledger

end Playback
