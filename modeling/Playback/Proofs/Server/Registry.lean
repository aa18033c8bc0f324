import Mathlib.Data.List.Sort
import Playback.Server.Registry

/-!
# The registry of sessions

What the operations of a registry do to its sessions and to its tokens.

* `close_fst`, `entries_close`, `isCancelled_close` — **what it is to close a session**: it succeeds
  if the session is open, and then the session goes and its token is cancelled, and no other;
* `close_of_fst_eq_false` — otherwise nothing happens;
* `Tracks` — **entries and tokens agree** on the sessions that were opened so far, and every
  operation keeps it so;
* `list_perm`, `list_pairwise` — the list of the open sessions has them all, by the time of their
  opening.
-/

namespace Playback.SessionRegistry

variable {r : SessionRegistry} {e : SessionEntry} {id other : String}

/-! ## Looking sessions up -/

theorem get?_eq_none_iff : r.get? id = none ↔ ∀ e ∈ r.entries, e.id ≠ id := by
  simp [get?]

/-! ## Opening sessions -/

theorem get?_openSession_self (e : SessionEntry) (fresh : r.get? e.id = none) :
    (r.openSession e.id e.testCase e.startedAt).get? e.id = some e := by
  unfold get? at fresh
  simp [openSession, get?, List.find?_append, fresh]

theorem get?_openSession_of_ne (e : SessionEntry) (ne : e.id ≠ other) :
    (r.openSession e.id e.testCase e.startedAt).get? other = r.get? other := by
  simp [openSession, get?, List.find?_append, ne]

@[simp] theorem isCancelled_openSession (e : SessionEntry) :
    (r.openSession e.id e.testCase e.startedAt).isCancelled other = r.isCancelled other := rfl

/-! ## Closing sessions -/

/-- **Closing succeeds** exactly if the session is open. -/
theorem close_fst : (r.close id).1 = (r.get? id).isSome := by
  cases found : r.get? id <;> simp [close, found]

/-- **An attempt that fails changes nothing.** -/
theorem close_of_fst_eq_false (failed : (r.close id).1 = false) : (r.close id).2 = r := by
  rw [close_fst, Option.isSome_eq_false_iff, Option.isNone_iff_eq_none] at failed
  simp [close, failed]

/-- **The sessions after one is closed** are the others. -/
theorem entries_close : (r.close id).2.entries = r.entries.filter fun e => e.id != id := by
  cases found : r.get? id with
  | none =>
    have others := get?_eq_none_iff.1 found
    simp only [close, found]
    exact (List.filter_eq_self.2 fun e he => by simpa using others e he).symm
  | some e => simp [close, found]

/-- A session that is closed is not open, even if it was not open before. -/
theorem get?_close_self : (r.close id).2.get? id = none := by
  simp [get?_eq_none_iff, entries_close]

/-- The other sessions stay as they are. -/
theorem get?_close_of_ne (ne : id ≠ other) : (r.close id).2.get? other = r.get? other := by
  rw [get?, entries_close, List.find?_filter]
  refine congrArg (List.find? · r.entries) (funext fun e => ?_)
  by_cases same : e.id = other
  · simp [same, ne.symm]
  · simp [same]

theorem isCancelled_cancel :
    (r.cancel id).isCancelled other = (decide (id = other) || r.isCancelled other) := by
  rw [cancel]
  split
  next known =>
    by_cases same : id = other
    · subst same; simp [known]
    · simp [same]
  next => simp [isCancelled, eq_comm]

/-- **The tokens after a session is closed**: its own is cancelled if it was open, the others stay as
they are. -/
theorem isCancelled_close : (r.close id).2.isCancelled other =
    (decide (id = other) && (r.get? id).isSome || r.isCancelled other) := by
  cases found : r.get? id with
  | none => simp [close, found]
  | some e =>
    have token : (r.close id).2.isCancelled other = (r.cancel id).isCancelled other := by
      simp [close, found, isCancelled]
    rw [token, isCancelled_cancel]
    simp

theorem isCancelled_close_of_ne (ne : id ≠ other) :
    (r.close id).2.isCancelled other = r.isCancelled other := by
  simp [isCancelled_close, ne]

/-- **Where a token agrees with the entry** of its session, being cancelled exactly if there is none,
it still does so after any session is closed. -/
theorem isCancelled_close_iff (agree : r.isCancelled id ↔ r.get? id = none) (other : String) :
    (r.close other).2.isCancelled id ↔ (r.close other).2.get? id = none := by
  by_cases same : other = id
  · subst same
    rw [isCancelled_close, get?_close_self]
    -- either it was open, or its token was cancelled before
    cases found : r.get? other with
    | none => simpa using agree.2 found
    | some e => simp
  · rw [isCancelled_close_of_ne same, get?_close_of_ne same]
    exact agree

/-! ## Entries and tokens together -/

/-- **A registry keeps track** of the sessions that were opened so far, of which these are the
names. -/
structure Tracks (opened : List String) (r : SessionRegistry) : Prop where
  /-- Sessions are opened before they are there. -/
  mem_of_get? : ∀ {id}, r.get? id ≠ none → id ∈ opened
  /-- Tokens are cancelled only of sessions that were opened. -/
  mem_of_isCancelled : ∀ {id}, r.isCancelled id → id ∈ opened
  /-- **A token is cancelled** as soon as its session is not open any more. -/
  isCancelled_iff : ∀ {id}, id ∈ opened → (r.isCancelled id ↔ r.get? id = none)

/-- A new registry has nothing to keep track of. -/
theorem tracks_nil : Tracks [] ({} : SessionRegistry) where
  mem_of_get? := fun found => absurd rfl found
  mem_of_isCancelled := fun cancelled => absurd cancelled Bool.false_ne_true
  isCancelled_iff := fun known => absurd known List.not_mem_nil

namespace Tracks

variable {opened : List String}

/-- A fresh session has a token of its own, which is not cancelled. -/
theorem openSession (known : Tracks opened r) (fresh : e.id ∉ opened) :
    Tracks (opened ++ [e.id]) (r.openSession e.id e.testCase e.startedAt) := by
  have unknown : r.get? e.id = none := by
    by_contra found
    exact fresh (known.mem_of_get? found)
  refine ⟨fun {id} found => ?_, fun {id} cancelled => ?_, fun {id} mem => ?_⟩
  · by_cases same : e.id = id
    · simp [same]
    · rw [get?_openSession_of_ne e same] at found
      exact List.mem_append_left _ (known.mem_of_get? found)
  · exact List.mem_append_left _ (known.mem_of_isCancelled cancelled)
  · rw [isCancelled_openSession]
    by_cases same : e.id = id
    · subst same
      simp only [get?_openSession_self e unknown, reduceCtorEq, iff_false]
      exact fun cancelled => fresh (known.mem_of_isCancelled cancelled)
    · rw [get?_openSession_of_ne e same]
      exact known.isCancelled_iff (by simpa [Ne.symm same] using mem)

/-- To close a session is to cancel its token and to forget it, both or none. -/
theorem close (known : Tracks opened r) (id : String) : Tracks opened (r.close id).2 := by
  refine ⟨fun {x} found => ?_, fun {x} cancelled => ?_, fun {x} mem => ?_⟩
  · have ne : id ≠ x := by rintro rfl; exact found get?_close_self
    rw [get?_close_of_ne ne] at found
    exact known.mem_of_get? found
  · rw [isCancelled_close, Bool.or_eq_true, Bool.and_eq_true, decide_eq_true_eq] at cancelled
    obtain ⟨rfl, wasOpen⟩ | before := cancelled
    · exact known.mem_of_get? (Option.isSome_iff_ne_none.1 wasOpen)
    · exact known.mem_of_isCancelled before
  · exact isCancelled_close_iff (known.isCancelled_iff mem) id

end Tracks

/-! ## The list of the open sessions -/

/-- Sessions in the order of their opening. -/
def OpenedBefore (a b : SessionEntry) : Prop := a.startedAt.total ≤ b.startedAt.total

instance : DecidableRel OpenedBefore := fun a b =>
  inferInstanceAs (Decidable (a.startedAt.total ≤ b.startedAt.total))

instance : Std.Total OpenedBefore := ⟨fun a b => le_total a.startedAt.total b.startedAt.total⟩

instance : IsTrans SessionEntry OpenedBefore := ⟨fun _ _ _ => le_trans⟩

theorem insertByTime_eq (e : SessionEntry) (entries : List SessionEntry) :
    insertByTime e entries = entries.orderedInsert OpenedBefore e := by
  induction entries with
  | nil => rfl
  | cons f rest ih =>
    rw [insertByTime, ih, List.orderedInsert]
    rfl

/-- The list of the open sessions is sorted by insertion. -/
theorem list_eq (r : SessionRegistry) : r.list = r.entries.insertionSort OpenedBefore := by
  have insertion : insertByTime = List.orderedInsert OpenedBefore :=
    funext fun e => funext fun entries => insertByTime_eq e entries
  rw [list, insertion, List.insertionSort]

/-- **The list has the open sessions**, each once. -/
theorem list_perm (r : SessionRegistry) : r.list.Perm r.entries := by
  rw [list_eq]
  exact List.perm_insertionSort OpenedBefore r.entries

/-- **The list is sorted** by the time of opening. -/
theorem list_pairwise (r : SessionRegistry) : r.list.Pairwise OpenedBefore := by
  rw [list_eq]
  exact List.pairwise_insertionSort OpenedBefore r.entries

end Playback.SessionRegistry
