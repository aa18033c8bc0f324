import Playback.Run.Attempt

/-!
# Transcripts of routines

A routine is a tree of requests. One way through it, with the answers that lead along it, is a
**transcript**. Statements about everything a routine may do are statements about its transcripts;
no world is needed for them, and they hold in every world.

* `Answered`, `Transcript` — a request with its answer, and a list of them;
* `Routine.Yields r t a` — **`r`, answered as in `t`, ends with `a`**; `yields_bind` and
  `yields_run_bind` take sequenced routines and attempts apart;
* `Transcript.told`, `Transcript.events`, `Transcript.calls` — what an observer hears of a
  transcript, and the calls that are started in it;
* `World.transcript`, `World.yields` — what a world answers is a transcript of the routine;
* `World.run_bind`, `World.log_bind` — sequences in a world;
* `Routine.lawfulMonad` — **the monad laws**, from which those of attempts follow.
-/

namespace Playback

/-- **A request with its answer.** -/
structure Answered where
  /-- The request. -/
  request : Request
  /-- Its answer. -/
  answer : request.Answer

/-- **A way through a routine**: its requests with their answers, in order. -/
abbrev Transcript := List Answered

namespace Answered

/-- What the observer is told by a request. -/
def message? : Answered → Option StreamMessage
  | ⟨.tell m, _⟩ => some m
  | _ => none

/-- The report on a step that the observer is told by a request. -/
def event? (x : Answered) : Option ProgressEvent :=
  match x.message? with
  | some (.progress e) => some e
  | _ => none

/-- **The call that a request starts.** A guarded call that is refused is not started. -/
def started? : Answered → Option Call
  | ⟨.shielded c, _⟩ => some c
  | ⟨.guarded _, .refused⟩ => none
  | ⟨.guarded c, _⟩ => some c
  | ⟨.inside c, _⟩ => some c
  | _ => none

/-- **An answer that only a cancelled run gets.** -/
def ShowsCancellation : Answered → Prop
  | ⟨.check, cancelled⟩ => cancelled = true
  | ⟨.guarded _, ending⟩ => ending = .refused ∨ ending = .interrupted
  | ⟨.inside _, answer⟩ => answer = none
  | _ => False

end Answered

namespace Transcript

/-- What the observer is told. -/
def told (t : Transcript) : List StreamMessage := t.filterMap Answered.message?

/-- **The reports on steps** that the observer is told. -/
def events (t : Transcript) : List ProgressEvent := t.filterMap Answered.event?

/-- **The calls that are started.** -/
def calls (t : Transcript) : List Call := t.filterMap Answered.started?

/-- **All requests are of some kind.** -/
def Within (P : Request → Prop) (t : Transcript) : Prop := ∀ x ∈ t, P x.request

/-- **Some answer shows that the run is cancelled.** -/
def ShowsCancellation (t : Transcript) : Prop := ∃ x ∈ t, x.ShowsCancellation

@[simp] theorem told_nil : told [] = [] := rfl

@[simp] theorem events_nil : events [] = [] := rfl

@[simp] theorem calls_nil : calls [] = [] := rfl

@[simp] theorem told_cons (x : Answered) (t : Transcript) :
    told (x :: t) = x.message?.toList ++ told t := by
  rw [told, List.filterMap_cons]
  cases x.message? <;> rfl

@[simp] theorem events_cons (x : Answered) (t : Transcript) :
    events (x :: t) = x.event?.toList ++ events t := by
  rw [events, List.filterMap_cons]
  cases x.event? <;> rfl

@[simp] theorem calls_cons (x : Answered) (t : Transcript) :
    calls (x :: t) = x.started?.toList ++ calls t := by
  rw [calls, List.filterMap_cons]
  cases x.started? <;> rfl

@[simp] theorem told_append (t u : Transcript) : told (t ++ u) = told t ++ told u :=
  List.filterMap_append

@[simp] theorem events_append (t u : Transcript) : events (t ++ u) = events t ++ events u :=
  List.filterMap_append

@[simp] theorem calls_append (t u : Transcript) : calls (t ++ u) = calls t ++ calls u :=
  List.filterMap_append

@[simp] theorem within_nil (P : Request → Prop) : Within P [] := fun _ h => nomatch h

@[simp] theorem within_cons (P : Request → Prop) (x : Answered) (t : Transcript) :
    Within P (x :: t) ↔ P x.request ∧ Within P t :=
  List.forall_mem_cons

@[simp] theorem within_append (P : Request → Prop) (t u : Transcript) :
    Within P (t ++ u) ↔ Within P t ∧ Within P u :=
  List.forall_mem_append

@[simp] theorem not_showsCancellation_nil : ¬ ShowsCancellation [] := fun ⟨_, h, _⟩ => nomatch h

@[simp] theorem showsCancellation_cons (x : Answered) (t : Transcript) :
    ShowsCancellation (x :: t) ↔ x.ShowsCancellation ∨ ShowsCancellation t := by
  simp only [ShowsCancellation, List.mem_cons, exists_eq_or_imp]

@[simp] theorem showsCancellation_append (t u : Transcript) :
    ShowsCancellation (t ++ u) ↔ ShowsCancellation t ∨ ShowsCancellation u := by
  simp only [ShowsCancellation, List.mem_append, or_and_right, exists_or]

/-- Requests of one kind are of any wider kind. -/
theorem Within.mono {P Q : Request → Prop} (h : ∀ q, P q → Q q) {t : Transcript}
    (ht : Within P t) : Within Q t :=
  fun x hx => h x.request (ht x hx)

end Transcript

namespace Routine

variable {α β : Type}

/-- **A routine, answered as in a transcript, ends with a result.** -/
inductive Yields : Routine α → Transcript → α → Prop where
  | done (a : α) : Yields (.done a) [] a
  | ask {q : Request} {k : q.Answer → Routine α} (x : q.Answer) {t : Transcript} {a : α} :
      Yields (k x) t a → Yields (.ask q k) (⟨q, x⟩ :: t) a

/-- A routine that is done puts no request. -/
theorem yields_done {a b : α} {t : Transcript} : Yields (.done a) t b ↔ t = [] ∧ b = a := by
  constructor
  · intro h
    cases h
    exact ⟨rfl, rfl⟩
  · rintro ⟨rfl, rfl⟩
    exact .done b

/-- A routine that asks gets an answer and goes on with it. -/
theorem yields_ask {q : Request} {k : q.Answer → Routine α} {t : Transcript} {a : α} :
    Yields (.ask q k) t a ↔ ∃ x u, t = ⟨q, x⟩ :: u ∧ Yields (k x) u a := by
  constructor
  · intro h
    cases h with
    | ask x h => exact ⟨x, _, rfl, h⟩
  · rintro ⟨x, u, rfl, h⟩
    exact .ask x h

/-- `pure` puts no request. -/
theorem yields_pure {a b : α} {t : Transcript} :
    Yields (pure a : Routine α) t b ↔ t = [] ∧ b = a :=
  yields_done

/-- One request is put and answered. -/
theorem yields_request {q : Request} {t : Transcript} {x : q.Answer} :
    Yields (request q) t x ↔ t = [⟨q, x⟩] := by
  rw [request, yields_ask]
  constructor
  · rintro ⟨y, u, rfl, h⟩
    obtain ⟨rfl, rfl⟩ := yields_done.1 h
    rfl
  · rintro rfl
    exact ⟨x, [], rfl, .done x⟩

/-- **A sequence is taken apart**: the transcript of `r >>= f` is one of `r` and then one of `f` at
the result of `r`. -/
theorem yields_bind {r : Routine α} {f : α → Routine β} {t : Transcript} {b : β} :
    Yields (r >>= f) t b ↔ ∃ t₁ a t₂, t = t₁ ++ t₂ ∧ Yields r t₁ a ∧ Yields (f a) t₂ b := by
  induction r generalizing t with
  | done a =>
    constructor
    · intro h
      exact ⟨[], a, t, rfl, .done a, h⟩
    · rintro ⟨t₁, a', t₂, rfl, h₁, h₂⟩
      obtain ⟨rfl, rfl⟩ := yields_done.1 h₁
      exact h₂
  | ask q k ih =>
    have unfolded : (ask q k >>= f) = ask q fun x => k x >>= f := rfl
    rw [unfolded, yields_ask]
    constructor
    · rintro ⟨x, u, rfl, h⟩
      obtain ⟨t₁, a, t₂, rfl, h₁, h₂⟩ := (ih x).1 h
      exact ⟨⟨q, x⟩ :: t₁, a, t₂, rfl, .ask x h₁, h₂⟩
    · rintro ⟨t₁, a, t₂, rfl, h₁, h₂⟩
      obtain ⟨x, u, rfl, h⟩ := yields_ask.1 h₁
      exact ⟨x, u ++ t₂, rfl, (ih x).2 ⟨u, a, t₂, rfl, h, h₂⟩⟩

/-- Of a request and what follows it, the answer comes first in the transcript. -/
theorem yields_request_bind {q : Request} {f : q.Answer → Routine β} {t : Transcript} {b : β} :
    Yields (request q >>= f) t b ↔ ∃ x u, t = ⟨q, x⟩ :: u ∧ Yields (f x) u b :=
  yields_ask

/-- The transcripts of a mapped result are those of the routine. -/
theorem yields_map {r : Routine α} {f : α → β} {t : Transcript} {b : β} :
    Yields (f <$> r) t b ↔ ∃ a, Yields r t a ∧ b = f a := by
  have unfolded : (f <$> r) = r >>= fun a => pure (f a) := rfl
  rw [unfolded, yields_bind]
  constructor
  · rintro ⟨t₁, a, t₂, rfl, h₁, h₂⟩
    obtain ⟨rfl, rfl⟩ := yields_pure.1 h₂
    exact ⟨a, by rwa [List.append_nil], rfl⟩
  · rintro ⟨a, h, rfl⟩
    exact ⟨t, a, [], (List.append_nil t).symm, h, yields_pure.2 ⟨rfl, rfl⟩⟩

end Routine

namespace Attempt

open Routine

variable {α β : Type}

/-- An attempt that returns puts no request. -/
theorem yields_run_pure {a : α} {t : Transcript} {r : Except StepError α} :
    Yields (pure a : Attempt α).run t r ↔ t = [] ∧ r = .ok a :=
  yields_pure

/-- An attempt that breaks off puts no request. -/
theorem yields_run_throw {e : StepError} {t : Transcript} {r : Except StepError α} :
    Yields (throw e : Attempt α).run t r ↔ t = [] ∧ r = .error e :=
  yields_pure

/-- A lifted routine does not break off. -/
theorem yields_run_lift {x : Routine α} {t : Transcript} {r : Except StepError α} :
    Yields (ExceptT.lift x : Attempt α).run t r ↔ ∃ a, Yields x t a ∧ r = .ok a := by
  rw [ExceptT.run_lift, yields_map]

/-- **A sequence of attempts is taken apart**: either the first breaks off, or the second goes on
with its result. -/
theorem yields_run_bind {x : Attempt α} {f : α → Attempt β} {t : Transcript}
    {r : Except StepError β} :
    Yields (x >>= f).run t r ↔
      (∃ e, Yields x.run t (.error e) ∧ r = .error e) ∨
        ∃ t₁ a t₂, t = t₁ ++ t₂ ∧ Yields x.run t₁ (.ok a) ∧ Yields (f a).run t₂ r := by
  rw [ExceptT.run_bind, yields_bind]
  constructor
  · rintro ⟨t₁, (e | a), t₂, rfl, h₁, h₂⟩
    · obtain ⟨rfl, rfl⟩ := yields_pure.1 h₂
      rw [List.append_nil]
      exact .inl ⟨e, h₁, rfl⟩
    · exact .inr ⟨t₁, a, t₂, rfl, h₁, h₂⟩
  · rintro (⟨e, h, rfl⟩ | ⟨t₁, a, t₂, rfl, h₁, h₂⟩)
    · exact ⟨t, .error e, [], (List.append_nil t).symm, h, yields_pure.2 ⟨rfl, rfl⟩⟩
    · exact ⟨t₁, .ok a, t₂, rfl, h₁, h₂⟩

/-- Of a lifted routine and what follows it, the routine comes first in the transcript. -/
theorem yields_run_lift_bind {x : Routine α} {f : α → Attempt β} {t : Transcript}
    {r : Except StepError β} :
    Yields ((ExceptT.lift x : Attempt α) >>= f).run t r ↔
      ∃ t₁ a t₂, t = t₁ ++ t₂ ∧ Yields x t₁ a ∧ Yields (f a).run t₂ r := by
  rw [yields_run_bind]
  constructor
  · rintro (⟨e, h, -⟩ | ⟨t₁, a, t₂, rfl, h₁, h₂⟩)
    · obtain ⟨a, -, ha⟩ := yields_run_lift.1 h
      exact nomatch ha
    · obtain ⟨b, h₁, hb⟩ := yields_run_lift.1 h₁
      obtain rfl := Except.ok.inj hb
      exact ⟨t₁, a, t₂, rfl, h₁, h₂⟩
  · rintro ⟨t₁, a, t₂, rfl, h₁, h₂⟩
    exact .inr ⟨t₁, a, t₂, rfl, yields_run_lift.2 ⟨a, h₁, rfl⟩, h₂⟩

/-- Of a request and the attempt that follows it, the answer comes first in the transcript. -/
theorem yields_run_request_bind {q : Request} {f : q.Answer → Attempt β} {t : Transcript}
    {r : Except StepError β} :
    Yields ((ExceptT.lift (request q) : Attempt q.Answer) >>= f).run t r ↔
      ∃ x u, t = ⟨q, x⟩ :: u ∧ Yields (f x).run u r := by
  rw [yields_run_lift_bind]
  constructor
  · rintro ⟨t₁, x, t₂, rfl, h₁, h₂⟩
    rw [yields_request.1 h₁]
    exact ⟨x, t₂, rfl, h₂⟩
  · rintro ⟨x, u, rfl, h⟩
    exact ⟨[⟨q, x⟩], x, u, rfl, yields_request.2 rfl, h⟩

end Attempt

/-! ## Worlds -/

/-- The request of an exchange with its answer. -/
def Exchange.answered {σ : Type} (x : Exchange σ) : Answered := ⟨x.request, x.answer⟩

section

variable {σ : Type}

/-- **The reports on steps** in a part of a log. -/
def reports (log : List (Exchange σ)) : List ProgressEvent :=
  Transcript.events (log.map Exchange.answered)

/-- Parts of a log are reported one after the other. -/
@[simp] theorem reports_append (l₁ l₂ : List (Exchange σ)) :
    reports (l₁ ++ l₂) = reports l₁ ++ reports l₂ := by
  rw [reports, List.map_append, Transcript.events_append]
  rfl

/-- The end of a log is reported at the end. -/
theorem reports_suffix {l₁ l₂ : List (Exchange σ)} (h : l₁ <:+ l₂) : reports l₁ <:+ reports l₂ := by
  obtain ⟨l, rfl⟩ := h
  exact ⟨reports l, (reports_append l l₁).symm⟩

end

namespace World

open Routine

variable {σ α β : Type}

/-- **The transcript of a routine in a world.** -/
def transcript (w : World σ) (r : Routine α) (s : σ) : Transcript :=
  (w.log r s).map Exchange.answered

/-- **The reports on steps** that the observer of a routine is told in a world. -/
def events (w : World σ) (r : Routine α) (s : σ) : List ProgressEvent := (w.transcript r s).events

/-- The transcript of a request begins with its answer. -/
theorem transcript_ask (w : World σ) (q : Request) (k : q.Answer → Routine α) (s : σ) :
    w.transcript (.ask q k) s =
      ⟨q, (w.reply s q).1⟩ :: w.transcript (k (w.reply s q).1) (w.reply s q).2 := rfl

/-- The reports of a routine are those in its log. -/
theorem events_eq (w : World σ) (r : Routine α) (s : σ) : w.events r s = reports (w.log r s) := rfl

/-- **A world answers along a transcript.** -/
theorem yields (w : World σ) (r : Routine α) (s : σ) :
    Yields r (w.transcript r s) (w.run r s).1 := by
  induction r generalizing s with
  | done a => exact .done a
  | ask q k ih => exact .ask (w.reply s q).1 (ih (w.reply s q).1 (w.reply s q).2)

/-- **A sequence runs one routine after the other.** -/
theorem run_bind (w : World σ) (r : Routine α) (f : α → Routine β) (s : σ) :
    w.run (r >>= f) s = w.run (f (w.run r s).1) (w.run r s).2 := by
  induction r generalizing s with
  | done a => rfl
  | ask q k ih => exact ih (w.reply s q).1 (w.reply s q).2

/-- **A sequence puts the requests of one routine after those of the other.** -/
theorem log_bind (w : World σ) (r : Routine α) (f : α → Routine β) (s : σ) :
    w.log (r >>= f) s = w.log r s ++ w.log (f (w.run r s).1) (w.run r s).2 := by
  induction r generalizing s with
  | done a => rfl
  | ask q k ih => exact congrArg (_ :: ·) (ih (w.reply s q).1 (w.reply s q).2)

/-- In a log every answer is that of the world. -/
theorem answer_of_mem_log {w : World σ} {r : Routine α} {s : σ} {x : Exchange σ}
    (h : x ∈ w.log r s) : x.answer = (w.reply x.before x.request).1 := by
  induction r generalizing s with
  | done a => exact nomatch h
  | ask q k ih =>
    rcases List.mem_cons.1 h with rfl | h
    · rfl
    · exact ih _ h

end World

/-! ## Laws -/

namespace Routine

variable {α β γ : Type}

/-- To go on by being done changes nothing. -/
theorem andThen_done (r : Routine α) : r.andThen done = r := by
  induction r with
  | done a => rfl
  | ask q k ih => exact congrArg (ask q) (funext ih)

/-- **To go on twice** is to go on with what goes on. -/
theorem andThen_assoc (r : Routine α) (f : α → Routine β) (g : β → Routine γ) :
    (r.andThen f).andThen g = r.andThen fun a => (f a).andThen g := by
  induction r with
  | done a => rfl
  | ask q k ih => exact congrArg (ask q) (funext ih)

/-- **Routines are a lawful monad.** How a sequence is bracketed does not matter. -/
instance lawfulMonad : LawfulMonad Routine :=
  LawfulMonad.mk' Routine andThen_done (fun _ _ => rfl) andThen_assoc

end Routine

end Playback
