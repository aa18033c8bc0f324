import Playback.Proofs.Routine.Transcript
import Playback.Simulation.Solo

/-!
# Surroundings with a token

A run is cancelled by a token. Surroundings say how calls, clocks and an observer behave, and when
the token is cancelled; how the token and the calls go together is the same in all of them.

* `Surroundings` — **calls, clocks, an observer, and a token that stays cancelled**;
* `Surroundings.world` — **the world they make**: a guarded call is raced against the token, and the
  token comes first;
* `Surroundings.cancelled_of_later` — after a cancellation every request finds the token cancelled;
* `Surroundings.cancelled_of_transcript` — only a cancelled run is shown its cancellation;
* `Simulation.surroundings` — the simulated world of one run is of this kind.
-/

namespace Playback

/-- **What a run is surrounded by.** Anything may cancel its token, and nothing takes that back. -/
structure Surroundings (σ : Type) where
  /-- Whether the token is cancelled. -/
  cancelled : σ → Bool
  /-- A call that is waited for whatever happens. -/
  await : σ → (c : Call) → c.Answer × σ
  /-- A call that is waited for together with the token; it has no answer if the token was cancelled
  first. -/
  race : σ → (c : Call) → Option c.Answer × σ
  /-- The clock of the run is read. -/
  clock : σ → Nat × σ
  /-- The time of day is read. -/
  now : σ → Instant × σ
  /-- The observer is told something. -/
  tell : σ → StreamMessage → σ
  /-- A call leaves a cancelled token cancelled. -/
  await_stays : ∀ s c, cancelled s = true → cancelled (await s c).2 = true
  /-- So does a call that is waited for together with it. -/
  race_stays : ∀ s c, cancelled s = true → cancelled (race s c).2 = true
  /-- A call is given up only for the token. -/
  race_given_up : ∀ s c, (race s c).1 = none → cancelled (race s c).2 = true
  /-- The clock leaves a cancelled token cancelled. -/
  clock_stays : ∀ s, cancelled s = true → cancelled (clock s).2 = true
  /-- So does the time of day. -/
  now_stays : ∀ s, cancelled s = true → cancelled (now s).2 = true
  /-- So does the observer. -/
  tell_stays : ∀ s m, cancelled s = true → cancelled (tell s m) = true

namespace Surroundings

variable {σ α : Type}

/-- A guarded call: the token is looked at, and then waited for together with the call. -/
def guarded (e : Surroundings σ) (s : σ) (c : Call) : Guarded c.Answer × σ :=
  if e.cancelled s then (.refused, s)
  else
    match e.race s c with
    | (some a, s) => (.answered a, s)
    | (none, s) => (.interrupted, s)

/-- **The world that surroundings make.** -/
def world (e : Surroundings σ) : World σ where
  reply s
    | .shielded c => e.await s c
    | .guarded c => e.guarded s c
    | .inside c => e.race s c
    | .check => (e.cancelled s, s)
    | .clock => e.clock s
    | .now => e.now s
    | .tell m => ((), e.tell s m)

variable (e : Surroundings σ) {s : σ}

/-- Once the token is cancelled a guarded call is refused. -/
theorem guarded_of_cancelled (h : e.cancelled s = true) (c : Call) :
    e.guarded s c = (.refused, s) := by
  rw [guarded, if_pos h]

/-- A guarded call that gets no answer leaves the token cancelled. -/
theorem cancelled_of_guarded {c : Call}
    (h : (e.guarded s c).1 = .refused ∨ (e.guarded s c).1 = .interrupted) :
    e.cancelled (e.guarded s c).2 = true := by
  by_cases before : e.cancelled s = true
  · rw [guarded_of_cancelled e before]
    exact before
  · have given := e.race_given_up s c
    rw [guarded, if_neg before] at h ⊢
    generalize e.race s c = raced at given h ⊢
    obtain ⟨answer, after⟩ := raced
    cases answer with
    | none => exact given rfl
    | some a => simp at h

/-- **The token stays cancelled** whatever is asked. -/
theorem cancelled_reply (h : e.cancelled s = true) (q : Request) :
    e.cancelled (e.world.reply s q).2 = true := by
  cases q with
  | shielded c => exact e.await_stays s c h
  | guarded c => exact e.cancelled_of_guarded (.inl (by rw [guarded_of_cancelled e h]))
  | inside c => exact e.race_stays s c h
  | check => exact h
  | clock => exact e.clock_stays s h
  | now => exact e.now_stays s h
  | tell m => exact e.tell_stays s m h

/-- The token stays cancelled while a routine runs. -/
theorem cancelled_run (h : e.cancelled s = true) (r : Routine α) :
    e.cancelled (e.world.run r s).2 = true := by
  induction r generalizing s with
  | done a => exact h
  | ask q k ih => exact ih _ (e.cancelled_reply h q)

/-- **Every request of a cancelled run** finds the token cancelled. -/
theorem cancelled_of_mem_log (h : e.cancelled s = true) {r : Routine α} {x : Exchange σ}
    (hx : x ∈ e.world.log r s) : e.cancelled x.before = true := by
  induction r generalizing s with
  | done a => exact nomatch hx
  | ask q k ih =>
    rcases List.mem_cons.1 hx with rfl | hx
    · exact h
    · exact ih _ (e.cancelled_reply h q) hx

/-- **Once a request has found the token cancelled**, all later ones do. -/
theorem cancelled_of_later {r : Routine α} {before after : List (Exchange σ)} {x : Exchange σ}
    (log : e.world.log r s = before ++ x :: after) (h : e.cancelled x.before = true) :
    ∀ y ∈ after, e.cancelled y.before = true := by
  induction r generalizing s before with
  | done a => simp [World.log] at log
  | ask q k ih =>
    cases before with
    | nil =>
      obtain ⟨rfl, rfl⟩ := List.cons.inj log
      exact fun y hy => e.cancelled_of_mem_log (e.cancelled_reply h q) hy
    | cons y before => exact ih _ (List.cons.inj log).2

/-- A look at a cancelled token shows that it is cancelled. -/
theorem log_check_bind (h : e.cancelled s = true) (k : Bool → Routine α) :
    e.world.log (Routine.request .check >>= k) s = ⟨s, .check, true⟩ :: e.world.log (k true) s := by
  change ⟨s, .check, e.cancelled s⟩ :: e.world.log (k (e.cancelled s)) s = _
  rw [h]

/-- After a look at a cancelled token a routine goes on as cancelled. -/
theorem run_check_bind (h : e.cancelled s = true) (k : Bool → Routine α) :
    e.world.run (Routine.request .check >>= k) s = e.world.run (k true) s := by
  change e.world.run (k (e.cancelled s)) s = _
  rw [h]

/-- **An answer that shows the cancellation** leaves the token cancelled. -/
theorem cancelled_of_shows {q : Request}
    (h : Answered.ShowsCancellation ⟨q, (e.world.reply s q).1⟩) :
    e.cancelled (e.world.reply s q).2 = true := by
  cases q with
  | shielded c => exact h.elim
  | guarded c => exact e.cancelled_of_guarded h
  | inside c => exact e.race_given_up s c h
  | check => exact h
  | clock => exact h.elim
  | now => exact h.elim
  | tell m => exact h.elim

/-- After a routine that was shown the cancellation the token is cancelled. -/
theorem cancelled_of_transcript {r : Routine α} (h : (e.world.transcript r s).ShowsCancellation) :
    e.cancelled (e.world.run r s).2 = true := by
  induction r generalizing s with
  | done a => exact (Transcript.not_showsCancellation_nil h).elim
  | ask q k ih =>
    have head : Answered.ShowsCancellation ⟨q, (e.world.reply s q).1⟩ ∨
        Transcript.ShowsCancellation
          (e.world.transcript (k (e.world.reply s q).1) (e.world.reply s q).2) :=
      (Transcript.showsCancellation_cons _ _).1 h
    rcases head with shows | later
    · exact e.cancelled_run (e.cancelled_of_shows shows) _
    · exact ih _ later

end Surroundings

/-! ## The simulated world -/

namespace Simulation

variable {script : Script} {s : Solo}

/-- To note a call leaves a cancelled run cancelled. -/
theorem Solo.fired_noteCall (h : s.cancellation.fired = true) (c : Call) :
    (s.noteCall script c).cancellation.fired = true := by
  rw [noteCall]
  split
  · simp [h]
  · exact h

/-- A patient call leaves a cancelled run cancelled. -/
theorem Solo.fired_patient (h : s.cancellation.fired = true) (c : Call) :
    (s.patient script c).2.cancellation.fired = true := by
  have noted : (s.noteCall script c).cancellation.fired = true := Solo.fired_noteCall h c
  rw [patient]
  split
  · exact noted
  · simp [advance, noted]

/-- An impatient call leaves a cancelled run cancelled, and a run whose call it gives up. -/
theorem Solo.fired_impatient (c : Call)
    (h : s.cancellation.fired = true ∨ (s.impatient script c).1 = none) :
    (s.impatient script c).2.cancellation.fired = true := by
  have noted : s.cancellation.fired = true → (s.noteCall script c).cancellation.fired = true :=
    fun fired => fired_noteCall fired c
  rw [impatient] at h ⊢
  split at h
  · exact noted (by simpa using h)
  · dsimp only at h ⊢
    split at h
    · simp [advance]
    · simp [advance, noted (by simpa using h)]

/-- **The surroundings of a simulated run.** -/
def surroundings (script : Script) : Surroundings Solo where
  cancelled s := s.cancellation.fired
  await s c := s.patient script c
  race s c := s.impatient script c
  clock s := (Span.ofMillis s.scene.now, s)
  now s := (s.scene.timeOfDay script, s)
  tell s m := { s with scene := s.scene.note (.message m) }
  await_stays _ c h := Solo.fired_patient h c
  race_stays _ c h := Solo.fired_impatient c (.inl h)
  race_given_up _ c h := Solo.fired_impatient c (.inr h)
  clock_stays _ h := h
  now_stays _ h := h
  tell_stays _ _ h := h

/-- **The world of a simulated run is that of its surroundings.** -/
theorem world_surroundings (script : Script) : (surroundings script).world = solo script := by
  refine congrArg World.mk (funext fun s => funext fun q => ?_)
  cases q with
  | guarded c =>
    change (surroundings script).guarded s c = Solo.reply script s (.guarded c)
    have sees : (surroundings script).cancelled s = s.cancellation.fired := rfl
    have races : (surroundings script).race s c = s.impatient script c := rfl
    rw [Surroundings.guarded, Solo.reply, sees, races]
    split
    · rfl
    · obtain ⟨answer, after⟩ := s.impatient script c
      cases answer <;> rfl
  | shielded c => rfl
  | inside c => rfl
  | check => rfl
  | clock => rfl
  | now => rfl
  | tell m => rfl

end Simulation

end Playback
