import Playback.Proofs.Routine.Setting
import Playback.Run.Observer

/-!
# Observed runs

A run tells its observer what happens. In a setting, where time passes only while a call is waited
for, the run does not notice who listens, nor whether anybody does.

* `Observer` — **what hears the messages of a run**, and may change by itself at any moment;
  `Memory.observer`, `Mailbox.observer` and `Mailbox.leaving` are such;
* `Setting.observed` — the surroundings of a run in a setting, with an observer;
* `Setting.log_observed` — **the requests of an observed run** are those of the run alone, by
  induction on the routine from `Setting.reply_observed`;
* `Observer.Unnoticed`, `Observer.unnoticed` — **no observer is noticed**;
* `Setting.moments`, `Setting.run_leaving` — **what a reader that leaves** has left behind.
-/

namespace Playback

/-! ## Observers -/

/-- **An observer**: what it makes of messages, and what becomes of it by itself. -/
structure Observer (ω : Type) where
  /-- It hears a message. -/
  hear : ω → StreamMessage → ω
  /-- What has become of it since the last request. -/
  drift : ω → ω

namespace Observer

variable {ω : Type}

/-- An observer that changes by what it hears and by nothing else. -/
def ofHear (hear : ω → StreamMessage → ω) : Observer ω := ⟨hear, id⟩

/-- What an observer makes of some messages. -/
def heard (o : Observer ω) (a : ω) (messages : List StreamMessage) : ω := messages.foldl o.hear a

end Observer

/-- The observer that records what it hears. -/
def Memory.observer : Observer Memory := .ofHear hear

namespace Mailbox

/-- The observer that hands on what it hears. -/
def observer : Observer Mailbox := .ofHear hear

/-- **The observer that hands on what it hears until its reader leaves**, after a number of requests
that is kept with it. -/
def leaving : Observer (Nat × Mailbox) where
  hear p m := (p.1, p.2.hear m)
  drift
    | (0, b) => (0, b.leave)
    | (n + 1, b) => (n, b)

end Mailbox

/-! ## Runs with an observer -/

/-- **There is a moment at a request** at which something may happen: it is neither a look at the
token nor a call that was refused. -/
def Answered.isMoment : Answered → Bool
  | ⟨.check, _⟩ => false
  | ⟨.guarded _, .refused⟩ => false
  | _ => true

/-- Nothing is told without a moment. -/
theorem Answered.message?_eq_none_of_not_isMoment {x : Answered} (quiet : x.isMoment = false) :
    x.message? = none := by
  obtain ⟨q, answer⟩ := x
  cases q with
  | tell m => cases quiet
  | _ => rfl

/-- The calls of a routine in surroundings, with the times at which they are started. -/
def Surroundings.timedCalls {σ α : Type} (e : Surroundings σ) (r : Routine α) (s : σ) :
    List (Nat × Call) :=
  (e.world.log r s).filterMap fun x => x.answered.started?.map fun c => ((e.clock x.before).1, c)

/-- An exchange without the observer. -/
def Exchange.alone {σ ω : Type} (x : Exchange (σ × ω)) : Exchange σ :=
  ⟨x.before.1, x.request, x.answer⟩

namespace Setting

variable {σ ω α : Type} (e : Setting σ) (o : Observer ω)

/-- **A setting with an observer.** Telling it something takes no time. -/
def observed : Surroundings (σ × ω) where
  cancelled p := e.cancelled p.1
  await p c := ((e.await p.1 c).1, (e.await p.1 c).2, o.drift p.2)
  race p c := ((e.race p.1 c).1, (e.race p.1 c).2, o.drift p.2)
  clock p := (e.clock p.1, p.1, o.drift p.2)
  now p := (e.now p.1, p.1, o.drift p.2)
  tell p m := (p.1, o.hear (o.drift p.2) m)
  await_stays p := e.await_stays p.1
  race_stays p := e.race_stays p.1
  race_given_up p := e.race_given_up p.1
  clock_stays _ h := h
  now_stays _ h := h
  tell_stays _ _ h := h

/-- **A guarded call** is answered as without the observer, which changes meanwhile unless the call
is refused. -/
theorem guarded_observed (p : σ × ω) (c : Call) :
    (e.observed o).guarded p c = ((e.surroundings.guarded p.1 c).1, (e.surroundings.guarded p.1 c).2,
      if Answered.isMoment ⟨.guarded c, (e.surroundings.guarded p.1 c).1⟩ then o.drift p.2
      else p.2) := by
  by_cases cancelled : e.cancelled p.1 = true
  · rw [(e.observed o).guarded_of_cancelled cancelled,
      e.surroundings.guarded_of_cancelled cancelled]
    rfl
  · have raced : (e.observed o).race p c =
        ((e.race p.1 c).1, (e.race p.1 c).2, o.drift p.2) := rfl
    have alone : e.surroundings.race p.1 c = e.race p.1 c := rfl
    have free : ¬ (e.observed o).cancelled p = true := cancelled
    have free' : ¬ e.surroundings.cancelled p.1 = true := cancelled
    rw [Surroundings.guarded, Surroundings.guarded, if_neg free, if_neg free', raced, alone]
    -- whether an answer came or the token was cancelled, time has passed
    cases e.race p.1 c with
    | mk answer after => cases answer <;> rfl

/-- **A request has the answer** that it would have without the observer, and leads to the same
state. -/
theorem reply_observed (p : σ × ω) (q : Request) :
    ((e.observed o).world.reply p q).1 = (e.world.reply p.1 q).1 ∧
      ((e.observed o).world.reply p q).2.1 = (e.world.reply p.1 q).2 := by
  cases q with
  | guarded c =>
    have same := e.guarded_observed o p c
    exact ⟨congrArg Prod.fst same, congrArg (fun reply => reply.2.1) same⟩
  | _ => exact ⟨rfl, rfl⟩

/-- **An observed run has the result** that it would have without the observer. -/
theorem run_observed (r : Routine α) (p : σ × ω) :
    ((e.observed o).world.run r p).1 = (e.world.run r p.1).1 ∧
      ((e.observed o).world.run r p).2.1 = (e.world.run r p.1).2 := by
  induction r generalizing p with
  | done a => exact ⟨rfl, rfl⟩
  | ask q k ih =>
    obtain ⟨answer, state⟩ := e.reply_observed o p q
    rw [World.run, World.run, ← answer, ← state]
    exact ih _ _

/-- **An observed run puts the requests** that it would put without the observer. -/
theorem log_observed (r : Routine α) (p : σ × ω) :
    ((e.observed o).world.log r p).map Exchange.alone = e.world.log r p.1 := by
  induction r generalizing p with
  | done a => rfl
  | ask q k ih =>
    obtain ⟨answer, state⟩ := e.reply_observed o p q
    rw [World.log, World.log, List.map_cons, ih, answer, state]
    rw [Exchange.alone]

/-- It is the same to the observer, too. -/
theorem transcript_observed (r : Routine α) (p : σ × ω) :
    (e.observed o).world.transcript r p = e.world.transcript r p.1 := by
  rw [World.transcript, World.transcript, ← e.log_observed o, List.map_map]
  rfl

/-- **It makes the same calls at the same times.** -/
theorem timedCalls_observed (r : Routine α) (p : σ × ω) :
    (e.observed o).timedCalls r p = e.timedCalls r p.1 := by
  rw [Surroundings.timedCalls, timedCalls, timed, ← e.log_observed o, List.filterMap_map]
  rfl

/-- **Of a request the observer hears** what it is told, if anything, after it has changed by itself
where there is a moment for that. -/
theorem reply_observer (p : σ × ω) (q : Request) :
    ((e.observed o).world.reply p q).2.2 =
      if Answered.isMoment ⟨q, (e.world.reply p.1 q).1⟩ then
        o.heard (o.drift p.2) (Answered.message? ⟨q, (e.world.reply p.1 q).1⟩).toList
      else p.2 := by
  cases q with
  | guarded c => exact congrArg (fun reply => reply.2.2) (e.guarded_observed o p c)
  | shielded | inside | check | clock | now | tell => rfl

/-- **An observer that changes by what it hears** hears of a request what it is told. -/
theorem heard_reply (still : ∀ a, o.drift a = a) (p : σ × ω) (q : Request) :
    ((e.observed o).world.reply p q).2.2 =
      o.heard p.2 (Answered.message? ⟨q, (e.world.reply p.1 q).1⟩).toList := by
  rw [reply_observer, still]
  split
  · rfl
  · next quiet =>
    rw [Answered.message?_eq_none_of_not_isMoment (Bool.of_not_eq_true quiet)]
    rfl

/-- **An observer that changes by what it hears** has made of a run what it makes of its
messages. -/
theorem heard_observed (still : ∀ a, o.drift a = a) (r : Routine α) (p : σ × ω) :
    ((e.observed o).world.run r p).2.2 = o.heard p.2 (e.world.transcript r p.1).told := by
  induction r generalizing p with
  | done a => rfl
  | ask q k ih =>
    obtain ⟨answer, state⟩ := e.reply_observed o p q
    rw [World.run, ih, state, answer, e.heard_reply o still, World.transcript_ask, Transcript.told_cons,
      Observer.heard, Observer.heard, Observer.heard, List.foldl_append]

end Setting

/-! ## Observers that are not noticed -/

namespace Observer

variable {σ ω α : Type}

/-- **An observer is not noticed** by a run: along its requests and in its result, the run is the
same as without it. -/
structure Unnoticed (o : Observer ω) (e : Setting σ) (r : Routine α) (s : σ) (a : ω) : Prop where
  /-- The same calls are made at the same times. -/
  timedCalls_eq : (e.observed o).timedCalls r (s, a) = e.timedCalls r s
  /-- The observer is told the same. -/
  told_eq : ((e.observed o).world.transcript r (s, a)).told = (e.world.transcript r s).told
  /-- The same progress is reported. -/
  events_eq : (e.observed o).world.events r (s, a) = e.world.events r s
  /-- The result is the same. -/
  result_eq : ((e.observed o).world.run r (s, a)).1 = (e.world.run r s).1
  /-- In the end the observer is what it makes of the messages, unless it changed by itself. -/
  heard_eq : (∀ b, o.drift b = b) →
    ((e.observed o).world.run r (s, a)).2.2 = o.heard a (e.world.transcript r s).told

/-- **No observer is noticed**, by any routine in any setting. -/
theorem unnoticed (o : Observer ω) (e : Setting σ) (r : Routine α) (s : σ) (a : ω) :
    o.Unnoticed e r s a where
  timedCalls_eq := e.timedCalls_observed o r (s, a)
  told_eq := congrArg Transcript.told (e.transcript_observed o r (s, a))
  events_eq := congrArg Transcript.events (e.transcript_observed o r (s, a))
  result_eq := (e.run_observed o r (s, a)).1
  heard_eq still := e.heard_observed o still r (s, a)

end Observer

/-! ## Readers that leave -/

/-- **A reader that leaves at any moment** is not noticed. -/
theorem Mailbox.unnoticed_leaving {σ α : Type} (e : Setting σ) (r : Routine α) (s : σ) (n : Nat) :
    leaving.Unnoticed e r s (n, {}) :=
  leaving.unnoticed e r s (n, {})

/-- A mailbox without a reader keeps nothing. -/
theorem Mailbox.heard_leave (b : Mailbox) (messages : List StreamMessage) :
    leaving.heard (0, b.leave) messages = (0, b.leave) := by
  induction messages with
  | nil => rfl
  | cons m messages ih => exact ih

/-- Until its reader leaves, a mailbox keeps what it hears. -/
theorem Mailbox.heard_leaving (n : Nat) (b : Mailbox) (messages : List StreamMessage) :
    leaving.heard (n, b) messages = (n, observer.heard b messages) := by
  induction messages generalizing b with
  | nil => rfl
  | cons m messages ih => exact ih (b.hear m)

/-- Without a reader, a mailbox is given none back. -/
theorem Mailbox.leave_heard (b : Mailbox) (messages : List StreamMessage) :
    (observer.heard b messages).leave = b.leave := rfl

namespace Setting

variable {σ α : Type} (e : Setting σ)

/-- **The number of moments** in a routine. -/
def moments (r : Routine α) (s : σ) : Nat := (e.world.transcript r s).countP Answered.isMoment

/-- The moment of a request comes before those that follow its answer. -/
theorem moments_ask (q : Request) (k : q.Answer → Routine α) (s : σ) :
    e.moments (.ask q k) s = e.moments (k (e.world.reply s q).1) (e.world.reply s q).2 +
      if Answered.isMoment ⟨q, (e.world.reply s q).1⟩ then 1 else 0 := by
  rw [moments, World.transcript_ask, List.countP_cons]
  rfl

/-- A reader that has left does not come back. -/
theorem run_left (r : Routine α) (s : σ) (b : Mailbox) :
    ((e.observed Mailbox.leaving).world.run r (s, 0, b.leave)).2.2 = (0, b.leave) := by
  induction r generalizing s with
  | done a => rfl
  | ask q k ih =>
    obtain ⟨-, state⟩ := e.reply_observed Mailbox.leaving (s, 0, b.leave) q
    have left : ((e.observed Mailbox.leaving).world.reply (s, 0, b.leave) q).2.2 = (0, b.leave) := by
      rw [reply_observer]
      split
      · exact b.heard_leave _
      · rfl
    have after : ((e.observed Mailbox.leaving).world.reply (s, 0, b.leave) q).2 =
        ((e.world.reply s q).2, 0, b.leave) := Prod.ext state left
    rw [World.run, after]
    exact ih _ _

/-- **What a reader leaves behind**: nothing, if it leaves at a moment of the routine, and all that
was told otherwise. -/
theorem run_leaving (r : Routine α) (s : σ) (n : Nat) (b : Mailbox) :
    ((e.observed Mailbox.leaving).world.run r (s, n, b)).2.2.2 =
      if n < e.moments r s then b.leave
      else Mailbox.observer.heard b (e.world.transcript r s).told := by
  induction r generalizing s n b with
  | done a => rfl
  | ask q k ih =>
    obtain ⟨answer, state⟩ := e.reply_observed Mailbox.leaving (s, n, b) q
    have changed := e.reply_observer Mailbox.leaving (s, n, b) q
    have after : ∀ {p}, ((e.observed Mailbox.leaving).world.reply (s, n, b) q).2.2 = p →
        ((e.observed Mailbox.leaving).world.reply (s, n, b) q).2 = ((e.world.reply s q).2, p) :=
      fun same => Prod.ext state same
    rw [World.run, answer, moments_ask, World.transcript_ask, Transcript.told_cons]
    cases moment : Answered.isMoment ⟨q, (e.world.reply s q).1⟩ with
    | false =>
      rw [if_neg (by simp [moment])] at changed
      rw [after changed, ih, Answered.message?_eq_none_of_not_isMoment moment]
      rfl
    | true =>
      rw [if_pos moment] at changed
      rw [if_pos rfl]
      cases n with
      | zero =>
        -- the reader leaves now, and whatever is told then is dropped
        have left : Mailbox.leaving.drift (0, b) = (0, b.leave) := rfl
        rw [left, Mailbox.heard_leave] at changed
        rw [if_pos (Nat.succ_pos _), after changed, run_left]
      | succ n =>
        have stays : Mailbox.leaving.drift (n + 1, b) = (n, b) := rfl
        rw [stays, Mailbox.heard_leaving] at changed
        rw [after changed, ih, Mailbox.leave_heard]
        simp only [Nat.add_lt_add_iff_right, Observer.heard, List.foldl_append]

end Setting

end Playback
