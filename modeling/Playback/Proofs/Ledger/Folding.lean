import Mathlib.Data.List.Sort
import Playback.Proofs.Ledger.Tally
import Playback.Proofs.Routine.Observed
import Playback.Proofs.Session.Course

/-!
# The meaning of a ledger

A ledger is a fold over events in any order, with numbers that recur and `processing` events that
come late. It means the same as a look at all events at once, and it means the same to the routine
that keeps it while it passes the events on to an observer.

* `Ledger.status?_ofEvents` — **the status of a number**: the last terminal one, or else `processing`
  if there is any event about the number;
* `Ledger.Sorted.ext`, `Ledger.recordEvent_comm` — **a ledger depends only on its statuses**, and so
  reports on different numbers may be exchanged;
* `Ledger.sum_counts`, `Ledger.sum_counts_ofEvents` — **the counts add up** to the number of entries,
  which are the distinct numbers;
* `Routine.reportAll`, `Observer.fed`, `Setting.run_ledgered_reportAll` — **a ledger listens in** on
  reports, and the observer behind it hears them all;
* `Ledger.Meaning`, `ledger_meaning` — all of it together, for every list of events.
-/

namespace Playback

namespace Ledger

variable {l l' : Ledger} {events : List ProgressEvent} {index : UInt32}

/-! ## Statuses -/

/-- One more event is recorded last. -/
theorem ofEvents_concat (events : List ProgressEvent) (e : ProgressEvent) :
    ofEvents (events ++ [e]) = (ofEvents events).recordEvent e := by
  rw [ofEvents, List.foldl_append]
  rfl

/-- A number has a status as soon as there is an event about it. -/
theorem isSome_status?_ofEvents :
    ((ofEvents events).status? index).isSome ↔ index ∈ events.map (·.indexStep) := by
  induction events using List.reverseRecOn with
  | nil => exact iff_of_false Bool.false_ne_true List.not_mem_nil
  | append_singleton events e ih =>
    rw [ofEvents_concat, status?_recordEvent (sorted_ofEvents events), List.map_append,
      List.mem_append, List.map_singleton, List.mem_singleton]
    split
    · next same => exact iff_of_true rfl (.inr same)
    · next differs => rw [ih, or_iff_left differs]

/-- **The status of a number** in the ledger of some events is the last terminal one, or else
`processing` if there is any event about the number. -/
theorem status?_ofEvents (events : List ProgressEvent) (index : UInt32) :
    (ofEvents events).status? index = (lastStatus? events index).or
      (if index ∈ events.map (·.indexStep) then some .processing else none) := by
  cases last : lastStatus? events index with
  | some status =>
    obtain ⟨e, -, -, terminal, rfl⟩ := exists_mem_of_lastStatus? last
    exact (status?_ofEvents_eq_some_iff terminal).2 last
  | none =>
    rw [Option.none_or]
    split
    · next occurs =>
      obtain ⟨status, has⟩ := Option.isSome_iff_exists.1 (isSome_status?_ofEvents.2 occurs)
      -- a terminal status would have been the last one
      cases terminal : status.isTerminal with
      | true => exact nomatch last.symm.trans ((status?_ofEvents_eq_some_iff terminal).1 has)
      | false =>
        cases status with
        | processing => exact has
        | _ => exact nomatch terminal
    · next absent =>
      rw [← Option.not_isSome_iff_eq_none, isSome_status?_ofEvents]
      exact absent

/-! ## Order -/

/-- In a sorted ledger the entries are the statuses. -/
theorem Sorted.mem_entries (h : l.Sorted) {e : UInt32 × StepStatus} :
    e ∈ l.entries ↔ l.status? e.1 = some e.2 :=
  ⟨h.status?_eq_of_mem, mem_of_status?_eq⟩

/-- **Extensionality**: sorted ledgers with the same statuses are equal. -/
theorem Sorted.ext (h : l.Sorted) (h' : l'.Sorted) (same : ∀ i, l.status? i = l'.status? i) :
    l = l' := by
  suffices entries : l.entries = l'.entries by
    obtain ⟨entries⟩ := l
    exact congrArg Ledger.mk ‹_›
  refine List.Pairwise.eq_of_mem_iff h h' fun e => ?_
  rw [h.mem_entries, h'.mem_entries, same]

/-- **Reports on different numbers may be exchanged.** -/
theorem recordEvent_comm (h : l.Sorted) {e f : ProgressEvent} (differ : e.indexStep ≠ f.indexStep) :
    (l.recordEvent e).recordEvent f = (l.recordEvent f).recordEvent e := by
  refine ((h.recordEvent e).recordEvent f).ext ((h.recordEvent f).recordEvent e) fun i => ?_
  rw [status?_recordEvent (h.recordEvent e), status?_recordEvent (h.recordEvent f),
    status?_recordEvent h, status?_recordEvent h]
  by_cases about : i = e.indexStep
  · subst about
    rw [if_neg differ, if_pos rfl, if_pos rfl, if_neg differ]
  · rw [if_neg about, if_neg about]

/-! ## Counts -/

/-- **The counts of a ledger** add up to the number of its entries. -/
theorem sum_counts (l : Ledger) : l.counts.completed + l.counts.failed + l.counts.skipped +
    l.counts.pending = l.entries.length := by
  obtain ⟨entries⟩ := l
  simp only [counts, countOf]
  induction entries with
  | nil => rfl
  | cons e entries ih =>
    obtain ⟨i, status⟩ := e
    simp only [List.countP_cons, List.length_cons]
    cases status <;> simp <;> omega

/-- **The counts of some events** add up to the number of distinct step numbers. -/
theorem sum_counts_ofEvents (events : List ProgressEvent) :
    (ofEvents events).counts.completed + (ofEvents events).counts.failed +
      (ofEvents events).counts.skipped + (ofEvents events).counts.pending =
      (events.map (·.indexStep)).toFinset.card := by
  have sorted := sorted_ofEvents events
  have distinct : ((ofEvents events).entries.map (·.1)).Nodup :=
    List.pairwise_map.2 (sorted.imp fun less => UInt32.ne_of_lt less)
  -- every number with a status has one entry
  have numbers : ((ofEvents events).entries.map (·.1)).toFinset =
      (events.map (·.indexStep)).toFinset := by
    refine Finset.ext fun i => ?_
    rw [List.mem_toFinset, List.mem_toFinset, ← isSome_status?_ofEvents, Option.isSome_iff_exists,
      List.mem_map]
    constructor
    · rintro ⟨e, entry, rfl⟩
      exact ⟨_, sorted.mem_entries.1 entry⟩
    · rintro ⟨status, has⟩
      exact ⟨(i, status), sorted.mem_entries.2 has, rfl⟩
  rw [sum_counts, ← numbers, List.toFinset_card_of_nodup distinct, List.length_map]

end Ledger

/-! ## Reports to an observer -/

/-- Reports some events, one after the other. -/
def Routine.reportAll : List ProgressEvent → Routine Unit
  | [] => return ()
  | e :: rest => do
    Routine.emit e
    reportAll rest

/-- **What becomes of an observer** that is told some messages one after the other, and may change by
itself before each of them. -/
def Observer.fed {ω : Type} (o : Observer ω) (a : ω) (messages : List StreamMessage) : ω :=
  messages.foldl (fun a m => o.hear (o.drift a) m) a

/-- **A ledger listens in on reports**: it takes all of them in, and the observer is told all of them,
too. -/
theorem Setting.run_ledgered_reportAll {σ ω : Type} (e : Setting σ) (o : Observer ω)
    (events : List ProgressEvent) (l : Ledger) (s : σ) (a : ω) :
    (e.observed o).world.run ((Routine.reportAll events).ledgered l) (s, a) =
      (((), events.foldl Ledger.recordEvent l), s, o.fed a (events.map .progress)) := by
  induction events generalizing l a with
  | nil => rfl
  | cons report rest ih => exact ih (l.recordEvent report) (o.hear (o.drift a) (.progress report))

/-- What the observer is told are the reports, unchanged and in order. -/
theorem Setting.told_ledgered_reportAll {σ ω : Type} (e : Setting σ) (o : Observer ω)
    (events : List ProgressEvent) (l : Ledger) (s : σ) (a : ω) :
    ((e.observed o).world.transcript ((Routine.reportAll events).ledgered l) (s, a)).told =
      events.map .progress := by
  induction events generalizing l a with
  | nil => rfl
  | cons report rest ih =>
    exact congrArg (_ :: ·) (ih (l.recordEvent report) (o.hear (o.drift a) (.progress report)))

/-- A memory records the events that it is told. -/
theorem Memory.events_fed (events : List ProgressEvent) (m : Memory) :
    (observer.fed m (events.map .progress)).events = m.events ++ events := by
  induction events generalizing m with
  | nil => exact (List.append_nil _).symm
  | cons e rest ih => exact (ih (m.hear (.progress e))).trans (List.append_assoc m.events [e] rest)

/-- A mailbox without a reader drops all that it is told. -/
theorem Mailbox.fed_leave (messages : List StreamMessage) (b : Mailbox) :
    (leaving.fed (0, b) messages).2.waiting = if messages = [] then b.waiting else [] := by
  induction messages generalizing b with
  | nil => rfl
  | cons m rest ih =>
    refine (ih (b.leave.hear m)).trans ?_
    simp [leave, hear]

/-- **A mailbox whose reader leaves** after some messages holds them until then, and nothing
afterwards. -/
theorem Mailbox.fed_leaving (messages : List StreamMessage) (k : ℕ) (b : Mailbox)
    (reader : b.hasReader = true) :
    (leaving.fed (k, b) messages).2.waiting =
      if messages.length ≤ k then b.waiting ++ messages else [] := by
  -- the countdown goes down with the messages, and the reader leaves when it is at its end
  induction messages generalizing k b with
  | nil => exact (List.append_nil _).symm
  | cons m rest ih =>
    cases k with
    | zero =>
      refine (Mailbox.fed_leave rest (b.leave.hear m)).trans ?_
      simp [leave, hear]
    | succ k =>
      have heard : b.hear m = { b with waiting := b.waiting ++ [m] } := if_pos reader
      refine (ih k (b.hear m) (by rw [heard]; exact reader)).trans ?_
      simp [heard]

/-! ## Lists of events -/

/-- **The meaning of a ledger** of some events, and of one that listens in on them. -/
structure Ledger.Meaning (events : List ProgressEvent) : Prop where
  /-- A number has its last terminal status, or else `processing` if there is any event about it, or
  else none. -/
  status_eq : ∀ index, (ofEvents events).status? index = (lastStatus? events index).or
    (if index ∈ events.map (·.indexStep) then some .processing else none)
  /-- The counts add up to the number of distinct step numbers. -/
  total_eq : (ofEvents events).counts.completed + (ofEvents events).counts.failed +
    (ofEvents events).counts.skipped + (ofEvents events).counts.pending =
    (events.map (·.indexStep)).toFinset.card
  /-- Neighbours that are about different numbers may be exchanged. -/
  exchange_eq : ∀ {before after : List ProgressEvent} {e f : ProgressEvent},
    events = before ++ e :: f :: after → e.indexStep ≠ f.indexStep →
    ofEvents (before ++ f :: e :: after) = ofEvents events
  /-- A ledger that listens in is, after each of the reports, the one of the reports so far, and the
  observer has been fed with them. -/
  listens : ∀ {σ ω : Type} (e : Setting σ) (o : Observer ω) (s : σ) (a : ω) (n : ℕ),
    (e.observed o).world.run ((Routine.reportAll (events.take n)).ledgered {}) (s, a) =
      (((), ofEvents (events.take n)), s, o.fed a ((events.take n).map .progress))
  /-- From there it goes on with the other reports. -/
  goes_on : ∀ {σ ω : Type} (e : Setting σ) (o : Observer ω) (s : σ) (a : ω) (n : ℕ),
    (e.observed o).world.run ((Routine.reportAll events).ledgered {}) (s, a) =
      (e.observed o).world.run
        ((Routine.reportAll (events.drop n)).ledgered (ofEvents (events.take n)))
        (s, o.fed a ((events.take n).map .progress))
  /-- What the observer is told are the reports so far, unchanged and in order, and the ledger counts
  as the ledger of what the observer is told. -/
  told : ∀ {σ ω : Type} (e : Setting σ) (o : Observer ω) (s : σ) (a : ω) (n : ℕ),
    let reports := (Routine.reportAll (events.take n)).ledgered {}
    ((e.observed o).world.transcript reports (s, a)).told = (events.take n).map .progress ∧
      ((e.observed o).world.run reports (s, a)).1.2.counts =
        (ofEvents ((e.observed o).world.events reports (s, a))).counts
  /-- A memory behind the ledger has recorded the reports so far, and the ledger counts as the ledger
  of the recorded ones. -/
  memory : ∀ {σ : Type} (e : Setting σ) (s : σ) (n : ℕ),
    let reported := (e.observed Memory.observer).world.run
      ((Routine.reportAll (events.take n)).ledgered {}) (s, {})
    reported.2.2.events = events.take n ∧
      reported.1.2.counts = (ofEvents reported.2.2.events).counts
  /-- A mailbox behind the ledger whose reader leaves after some of the reports has dropped what
  waited and drops the others, and the ledger counts the same. -/
  mailbox : ∀ {σ : Type} (e : Setting σ) (s : σ) (k n : ℕ),
    let reported := (e.observed Mailbox.leaving).world.run
      ((Routine.reportAll (events.take n)).ledgered {}) (s, k, {})
    reported.2.2.2.waiting =
        (if (events.take n).length ≤ k then (events.take n).map .progress else []) ∧
      reported.1.2.counts = (ofEvents (events.take n)).counts

/-- **A ledger means the same as a look at all events at once**, for every list of events. -/
theorem ledger_meaning (events : List ProgressEvent) : Ledger.Meaning events where
  status_eq := Ledger.status?_ofEvents events
  total_eq := Ledger.sum_counts_ofEvents events
  exchange_eq {before after e f} split differ := by
    have sorted := Ledger.sorted_ofEvents before
    rw [Ledger.ofEvents] at sorted
    rw [split, Ledger.ofEvents, Ledger.ofEvents, List.foldl_append, List.foldl_append,
      List.foldl_cons, List.foldl_cons, List.foldl_cons, List.foldl_cons,
      Ledger.recordEvent_comm sorted differ]
  listens e o s a n := e.run_ledgered_reportAll o (events.take n) {} s a
  goes_on e o s a n := by
    rw [e.run_ledgered_reportAll, e.run_ledgered_reportAll, Ledger.ofEvents, Observer.fed,
      Observer.fed, Observer.fed, ← List.foldl_append, ← List.foldl_append, ← List.map_append,
      List.take_append_drop]
  told e o s a n := by
    have told := e.told_ledgered_reportAll o (events.take n) {} s a
    refine ⟨told, ?_⟩
    rw [World.run_ledgered, World.events_eq, World.events_eq, World.log_ledgered]
    rfl
  memory e s n := by
    have recorded := Memory.events_fed (events.take n) {}
    dsimp only
    rw [e.run_ledgered_reportAll]
    exact ⟨recorded, congrArg (fun es => (Ledger.ofEvents es).counts) recorded.symm⟩
  mailbox e s k n := by
    have waiting := Mailbox.fed_leaving ((events.take n).map .progress) k {} rfl
    dsimp only
    rw [e.run_ledgered_reportAll]
    refine ⟨?_, rfl⟩
    rw [waiting, List.length_map]
    rfl

end Playback
