import Mathlib.Data.List.Induction
import Playback.Proofs.Server.Requests

/-!
# Sessions under every interleaving

Three parties may close a session: its run when it is over, the stream that its reader drops, and a
request. They come in any order, as often as they like, and also for sessions that there are not.

* `Act`, `Setup.after` — what can happen to the sessions of a server, and the hub afterwards;
* `Setup.stillOpen` — **the sessions that were opened and not closed since**, read off what happened;
* `Setup.registry_act` — every act opens a session, closes one or leaves the registry alone;
* `Setup.entries_after`, `Setup.tracks_after` — what the registry has after any acts;
* `sessions_accounted` — **the account of all sessions**, given that their names are distinct.
-/

namespace Playback.Server

/-- **What can happen** to the sessions of a server. -/
inductive Act where
  /-- A request arrives, at a time, with a name ready for a new session. -/
  | requested (fresh : String) (startedAt : Instant) (r : WebRequest)
  /-- A session is opened without a request. -/
  | opened (e : SessionEntry)
  /-- The run of a session is over. -/
  | finished (id : String)
  /-- The stream of a session is dropped. -/
  | left (id : String)

/-- **The session that an act is an attempt to close.** -/
def Act.closing? : Act → Option String
  | requested _ _ r => r.closing?
  | opened _ => none
  | finished id => some id
  | left id => some id

namespace Setup

variable (setup : Setup) (time : Instant → Json)

/-- **The session that an act opens.** -/
def opening? : Act → Option SessionEntry
  | .requested fresh startedAt r => setup.opened? fresh startedAt r
  | .opened e => some e
  | .finished _ => none
  | .left _ => none

/-- The hub after an act. -/
def act (hub : Hub) : Act → Hub
  | .requested fresh startedAt r => (setup.respond hub time fresh startedAt r).2.1
  | .opened e => hub.accept e
  | .finished id => hub.finish id
  | .left id => hub.leave id

/-- **The hub after some acts**, beginning with no sessions. -/
def after (acts : List Act) : Hub := acts.foldl (setup.act time) {}

/-- The names of the sessions that were opened, in order. -/
def openedIds (acts : List Act) : List String := (acts.filterMap setup.opening?).map (·.id)

/-- **The sessions that were opened and not closed since.** -/
def stillOpen : List Act → List SessionEntry
  | [] => []
  | a :: later =>
    (setup.opening? a).toList.filter (fun e => ∀ b ∈ later, b.closing? ≠ some e.id) ++
      stillOpen later

@[simp] theorem after_concat (acts : List Act) (a : Act) :
    setup.after time (acts ++ [a]) = setup.act time (setup.after time acts) a := by
  simp [after]

@[simp] theorem openedIds_append (xs ys : List Act) :
    setup.openedIds (xs ++ ys) = setup.openedIds xs ++ setup.openedIds ys := by
  simp [openedIds]

/-- What is closed later is not open any more. -/
theorem stillOpen_append (xs ys : List Act) : setup.stillOpen (xs ++ ys) =
    (setup.stillOpen xs).filter (fun e => ∀ b ∈ ys, b.closing? ≠ some e.id) ++
      setup.stillOpen ys := by
  induction xs with
  | nil => rfl
  | cons a xs ih => simp [stillOpen, ih, List.filter_filter, or_imp, forall_and, and_comm]

/-- Sessions that are still open were opened. -/
theorem id_mem_openedIds {acts : List Act} {e : SessionEntry} (mem : e ∈ setup.stillOpen acts) :
    e.id ∈ setup.openedIds acts := by
  induction acts with
  | nil => exact absurd mem List.not_mem_nil
  | cons a later ih =>
    rw [stillOpen, List.mem_append] at mem
    change e.id ∈ setup.openedIds ([a] ++ later)
    rw [openedIds_append, List.mem_append]
    obtain here | there := mem
    · left
      have opens : setup.opening? a = some e := by simpa using List.mem_of_mem_filter here
      simp [openedIds, opens]
    · exact .inr (ih there)

/-! ## One act -/

variable {setup time}

/-- **Every act** closes a session, opens one, or leaves the registry alone. -/
theorem registry_act (setup : Setup) (time : Instant → Json) (hub : Hub) (a : Act) :
    (∃ id, a.closing? = some id ∧ setup.opening? a = none ∧
      (setup.act time hub a).registry = (hub.registry.close id).2) ∨
    (∃ e, a.closing? = none ∧ setup.opening? a = some e ∧
      (setup.act time hub a).registry =
        hub.registry.openSession e.id e.testCase e.startedAt) ∨
    (a.closing? = none ∧ setup.opening? a = none ∧
      (setup.act time hub a).registry = hub.registry) := by
  cases a with
  | opened e => exact .inr (.inl ⟨e, rfl, rfl, rfl⟩)
  | finished id | left id => exact .inl ⟨id, rfl, rfl, rfl⟩
  | requested fresh startedAt r =>
    cases setup.means fresh startedAt r with
    | runs e run id_eq startedAt_eq sessionId_eq token_eq other respond_eq =>
      refine .inr (.inl ⟨e, other, ?_, ?_⟩)
      · rw [opening?, opened?, respond_eq]; rfl
      · rw [act, respond_eq]; rfl
    | closes id closing respond_eq =>
      refine .inl ⟨id, closing, ?_, ?_⟩
      · rw [opening?, opened?, respond_eq]; rfl
      · rw [act, respond_eq, closeSession_eq]; rfl
    | leaves other respond_eq =>
      refine .inr (.inr ⟨other, ?_, ?_⟩)
      · obtain ⟨response, -, answer⟩ := respond_eq {} fun _ => .null
        rw [opening?, opened?, answer]; rfl
      · obtain ⟨response, -, answer⟩ := respond_eq hub time
        rw [act, answer]

/-- An act that is an attempt to close a session does just that. -/
theorem registry_act_of_closing {a : Act} {id : String} (closing : a.closing? = some id)
    (hub : Hub) : (setup.act time hub a).registry = (hub.registry.close id).2 := by
  obtain ⟨x, closes, -, eq⟩ | ⟨e, other, -⟩ | ⟨other, -⟩ :=
    registry_act setup time hub a
  · obtain rfl : x = id := Option.some.inj (closes.symm.trans closing)
    exact eq
  · exact nomatch other.symm.trans closing
  · exact nomatch other.symm.trans closing

/-! ## All acts -/

/-- **The registry has the sessions** that were opened and not closed since. -/
theorem entries_after (acts : List Act) :
    (setup.after time acts).registry.entries = setup.stillOpen acts := by
  induction acts using List.reverseRecOn with
  | nil => rfl
  | append_singleton acts a ih =>
    rw [after_concat, stillOpen_append]
    obtain ⟨id, closing, opening, eq⟩ | ⟨e, closing, opening, eq⟩ | ⟨closing, opening, eq⟩ :=
      registry_act setup time (setup.after time acts) a
    · have others : (fun e : SessionEntry => e.id != id) = fun e => decide (¬id = e.id) :=
        funext fun e => by simp [bne, beq_eq_decide, eq_comm]
      simp [eq, SessionRegistry.entries_close, others, ih, stillOpen, closing, opening]
    · simp [eq, SessionRegistry.openSession, ih, stillOpen, closing, opening]
    · simp [eq, ih, stillOpen, closing, opening]

/-- **Entries and tokens agree** after any acts that open sessions under distinct names. -/
theorem tracks_after {acts : List Act} (distinct : (setup.openedIds acts).Nodup) :
    (setup.after time acts).registry.Tracks (setup.openedIds acts) := by
  induction acts using List.reverseRecOn with
  | nil => exact SessionRegistry.tracks_nil
  | append_singleton acts a ih =>
    rw [openedIds_append] at distinct ⊢
    have before := ih (List.nodup_append.1 distinct).1
    rw [after_concat]
    obtain ⟨id, closing, opening, eq⟩ | ⟨e, closing, opening, eq⟩ | ⟨closing, opening, eq⟩ :=
      registry_act setup time (setup.after time acts) a
    · simpa [eq, openedIds, opening] using before.close id
    · have fresh : e.id ∉ setup.openedIds acts := fun known =>
        (List.nodup_append.1 distinct).2.2 _ known _ (by simp [openedIds, opening]) rfl
      simpa [eq, openedIds, opening] using before.openSession fresh
    · simpa [eq, openedIds, opening] using before

/-! ## Attempts to close a session -/

variable (setup time)

/-- **Whether an attempt to close a session succeeds** after some acts. -/
def closes (acts : List Act) (id : String) : Bool :=
  ((setup.after time acts).registry.close id).1

variable {setup time}

theorem closes_iff {acts : List Act} {id : String} :
    setup.closes time acts id = true ↔ ∃ e ∈ setup.stillOpen acts, e.id = id := by
  rw [closes, SessionRegistry.close_fst, SessionRegistry.get?, entries_after, List.find?_isSome]
  simp

/-- A session that was opened and is the only one of its name is still open if no attempt to close
it has been made. -/
theorem closes_iff_of_opened {before between : List Act} {o : Act} {e : SessionEntry}
    (opens : setup.opening? o = some e)
    (distinct : (setup.openedIds (before ++ o :: between)).Nodup) :
    setup.closes time (before ++ o :: between) e.id = true ↔
      ∀ b ∈ between, b.closing? ≠ some e.id := by
  have parts : setup.openedIds (before ++ o :: between) =
      setup.openedIds before ++ e.id :: setup.openedIds between := by
    simp [openedIds, opens]
  rw [parts, List.nodup_middle, List.nodup_cons, List.mem_append, not_or] at distinct
  obtain ⟨⟨earlier, later⟩, -⟩ := distinct
  rw [closes_iff, stillOpen_append, stillOpen, opens]
  constructor
  · rintro ⟨x, mem, same⟩
    obtain mem | mem | mem := by simpa only [List.mem_append] using mem
    · exact absurd (same ▸ setup.id_mem_openedIds (List.mem_of_mem_filter mem)) earlier
    · rw [List.mem_filter, decide_eq_true_eq, same] at mem
      exact mem.2
    · exact absurd (same ▸ setup.id_mem_openedIds mem) later
  · intro unclosed
    refine ⟨e, List.mem_append_right _ (List.mem_append_left _ ?_), rfl⟩
    simpa using unclosed

/-! ## The account of all sessions -/

variable (setup time)

/-- **The account of all sessions** after some acts. -/
structure Accounts (acts : List Act) : Prop where
  /-- The registry has exactly the sessions that were opened and not closed since. -/
  entries_eq : (setup.after time acts).registry.entries = setup.stillOpen acts
  /-- The token of a session is cancelled exactly if the session is not in the registry any more. -/
  isCancelled_iff : ∀ id ∈ setup.openedIds acts,
    ((setup.after time acts).registry.isCancelled id ↔
      (setup.after time acts).registry.get? id = none)
  /-- Of all attempts to close one session exactly the first succeeds. -/
  first_closes : ∀ {before o between a later e}, acts = before ++ o :: between ++ a :: later →
    setup.opening? o = some e → a.closing? = some e.id →
    (setup.closes time (before ++ o :: between) e.id = true ↔
      ∀ b ∈ between, b.closing? ≠ some e.id)
  /-- No attempt to close a session succeeds before there is one. -/
  unknown_fails : ∀ {before a later id}, acts = before ++ a :: later → a.closing? = some id →
    id ∉ setup.openedIds before → setup.closes time before id = false
  /-- The attempts that fail change nothing. -/
  registry_of_fails : ∀ {before a later id}, acts = before ++ a :: later →
    a.closing? = some id → setup.closes time before id = false →
    (setup.after time (before ++ [a])).registry = (setup.after time before).registry
  /-- To close a session changes no other entry and cancels no other token. -/
  others_kept : ∀ {before a later id other}, acts = before ++ a :: later →
    a.closing? = some id → id ≠ other →
    (setup.after time (before ++ [a])).registry.get? other =
        (setup.after time before).registry.get? other ∧
      (setup.after time (before ++ [a])).registry.isCancelled other =
        (setup.after time before).registry.isCancelled other
  /-- A request to close a session is answered with 204 if it succeeds, and with 404 otherwise. -/
  status_eq : ∀ {before fresh startedAt r later id},
    acts = before ++ .requested fresh startedAt r :: later → r.closing? = some id →
    (setup.respond (setup.after time before) time fresh startedAt r).1.status =
      if setup.closes time before id then 204 else 404
  /-- The list of the open sessions has them all, -/
  list_perm : (setup.after time acts).registry.list.Perm (setup.after time acts).registry.entries
  /-- by the time of their opening. -/
  list_pairwise : (setup.after time acts).registry.list.Pairwise fun a b =>
    a.startedAt.total ≤ b.startedAt.total

/-- **All sessions are accounted for** after any acts that open sessions under distinct names. -/
theorem sessions_accounted (acts : List Act) (distinct : (setup.openedIds acts).Nodup) :
    setup.Accounts time acts where
  entries_eq := entries_after acts
  isCancelled_iff := fun _ known => (tracks_after distinct).isCancelled_iff known
  first_closes := by
    rintro before o between a later e rfl opens -
    rw [openedIds_append] at distinct
    exact closes_iff_of_opened opens (List.nodup_append.1 distinct).1
  unknown_fails := by
    rintro before a later id - - unknown
    by_contra succeeds
    obtain ⟨e, mem, rfl⟩ := closes_iff.1 (Bool.of_not_eq_false succeeds)
    exact unknown (setup.id_mem_openedIds mem)
  registry_of_fails := by
    rintro before a later id - closing fails
    rw [after_concat, registry_act_of_closing closing]
    exact SessionRegistry.close_of_fst_eq_false fails
  others_kept := by
    rintro before a later id other - closing ne
    rw [after_concat, registry_act_of_closing closing]
    exact ⟨SessionRegistry.get?_close_of_ne ne, SessionRegistry.isCancelled_close_of_ne ne⟩
  status_eq := by
    rintro before fresh startedAt r later id - closing
    rw [respond_of_closing closing, closeSession_eq, apply_ite Response.status]
    rfl
  list_perm := SessionRegistry.list_perm _
  list_pairwise := SessionRegistry.list_pairwise _

/-- A server with a single test, of no steps. -/
def single : Setup where
  root := "scripts"
  library := [(["login.json"], "\x7b\"steps\": []\x7d".toUTF8.toList)]
  config := {}

/-- A request to run that test. -/
def runSingle : WebRequest :=
  ⟨"POST", "/api/test-cases/login/run", some "application/json", "\x7b\x7d"⟩

/-- A request to close a session. -/
def delete (id : String) : WebRequest := ⟨"DELETE", "/api/sessions/" ++ id, none, ""⟩

/-- Two runs of the test, one closed by a request before it is over, the other left by its reader;
then all parties try again, and one asks for a session that there is not. -/
def twoRuns : List Act := [
  .requested "a" ⟨2, 0⟩ runSingle, .requested "b" ⟨1, 0⟩ runSingle,
  .requested "" default (delete "a"), .finished "a", .left "b", .left "a", .finished "b",
  .requested "" default (delete "a"), .requested "" default (delete "c"),
  .opened ⟨"d", none, ⟨3, 0⟩⟩]

/-- Both runs are accepted, and all sessions are accounted for. -/
theorem accounts_twoRuns :
    single.openedIds twoRuns = ["a", "b", "d"] ∧ (single.openedIds twoRuns).Nodup ∧
      single.Accounts (fun _ => .null) twoRuns := by
  have opened : single.openedIds twoRuns = ["a", "b", "d"] := by decide +kernel
  have distinct : (single.openedIds twoRuns).Nodup := by rw [opened]; decide
  exact ⟨opened, distinct, sessions_accounted single (fun _ => .null) twoRuns distinct⟩

end Setup

end Playback.Server
