import Playback.Proofs.Routine.Surroundings

/-!
# Settings

Surroundings in which time passes only while a call is waited for: to read a clock, to look at the
token or to tell the observer something takes no time and changes nothing.

* `Setting` — **calls, a token, and a clock that only moves in calls**;
* `Setting.world` — the world that a setting makes;
* `Setting.timedCalls` — **the calls of a routine, with the times at which they are started**;
* `Simulation.setting` — the setting of a simulated run.
-/

namespace Playback

/-- **What a run is set in** where only calls change anything. -/
structure Setting (σ : Type) where
  /-- Whether the token is cancelled. -/
  cancelled : σ → Bool
  /-- The clock of the run. -/
  clock : σ → Nat
  /-- The time of day. -/
  now : σ → Instant
  /-- A call that is waited for whatever happens. -/
  await : σ → (c : Call) → c.Answer × σ
  /-- A call that is waited for together with the token; it has no answer if the token was cancelled
  first. -/
  race : σ → (c : Call) → Option c.Answer × σ
  /-- A call leaves a cancelled token cancelled. -/
  await_stays : ∀ s c, cancelled s = true → cancelled (await s c).2 = true
  /-- So does a call that is waited for together with it. -/
  race_stays : ∀ s c, cancelled s = true → cancelled (race s c).2 = true
  /-- A call is given up only for the token. -/
  race_given_up : ∀ s c, (race s c).1 = none → cancelled (race s c).2 = true

namespace Setting

variable {σ α β : Type} (e : Setting σ)

/-- **The surroundings of a setting.** -/
def surroundings : Surroundings σ where
  cancelled := e.cancelled
  await := e.await
  race := e.race
  clock s := (e.clock s, s)
  now s := (e.now s, s)
  tell s _ := s
  await_stays := e.await_stays
  race_stays := e.race_stays
  race_given_up := e.race_given_up
  clock_stays _ h := h
  now_stays _ h := h
  tell_stays _ _ h := h

/-- **The world of a setting.** -/
def world : World σ := e.surroundings.world

/-- The calls that are started in a log, with the times of the states they are started in. -/
def timed (log : List (Exchange σ)) : List (Nat × Call) :=
  log.filterMap fun x => x.answered.started?.map fun c => (e.clock x.before, c)

/-- **The calls of a routine**, with the times at which they are started. -/
def timedCalls (r : Routine α) (s : σ) : List (Nat × Call) := e.timed (e.world.log r s)

/-- The calls of parts of a log come one after the other. -/
theorem timed_append (l₁ l₂ : List (Exchange σ)) :
    e.timed (l₁ ++ l₂) = e.timed l₁ ++ e.timed l₂ :=
  List.filterMap_append

/-- The call that a routine starts first comes before those that follow its answer. -/
theorem timedCalls_ask (q : Request) (k : q.Answer → Routine α) (s : σ) :
    e.timedCalls (.ask q k) s =
      ((Answered.started? ⟨q, (e.world.reply s q).1⟩).map fun c => (e.clock s, c)).toList ++
        e.timedCalls (k (e.world.reply s q).1) (e.world.reply s q).2 := by
  rw [timedCalls, World.log, timed, List.filterMap_cons]
  dsimp only [Exchange.answered]
  cases Answered.started? ⟨q, (e.world.reply s q).1⟩ <;> rfl

/-- What a routine reports first comes before what follows the answer. -/
theorem events_ask (q : Request) (k : q.Answer → Routine α) (s : σ) :
    e.world.events (.ask q k) s =
      (Answered.event? ⟨q, (e.world.reply s q).1⟩).toList ++
        e.world.events (k (e.world.reply s q).1) (e.world.reply s q).2 := by
  rw [World.events, World.transcript, World.log, List.map_cons, Transcript.events_cons]
  rfl

/-- **A sequence makes the calls of one routine after those of the other.** -/
theorem timedCalls_bind (r : Routine α) (f : α → Routine β) (s : σ) :
    e.timedCalls (r >>= f) s =
      e.timedCalls r s ++ e.timedCalls (f (e.world.run r s).1) (e.world.run r s).2 := by
  rw [timedCalls, World.log_bind, timed_append]
  rfl

/-- A sequence reports what one routine does after what the other does. -/
theorem events_bind (r : Routine α) (f : α → Routine β) (s : σ) :
    e.world.events (r >>= f) s =
      e.world.events r s ++ e.world.events (f (e.world.run r s).1) (e.world.run r s).2 := by
  rw [World.events_eq, World.log_bind, reports_append]
  rfl

end Setting

/-- **The setting of a simulated run.** -/
def Simulation.setting (script : Script) : Setting Solo where
  cancelled := (surroundings script).cancelled
  clock s := Span.ofMillis s.scene.now
  now s := s.scene.timeOfDay script
  await := (surroundings script).await
  race := (surroundings script).race
  await_stays := (surroundings script).await_stays
  race_stays := (surroundings script).race_stays
  race_given_up := (surroundings script).race_given_up

end Playback
