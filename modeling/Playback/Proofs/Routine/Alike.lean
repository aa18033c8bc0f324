import Playback.Proofs.Handler.Discipline
import Playback.Proofs.Routine.Setting

/-!
# Calls that decide nothing

Pictures of the page, the waits for its phases, and its closing are made as well as they go: what
becomes of them decides nothing. Two settings may answer them differently, and a routine that heeds
them in its pictures alone does the same in both.

* `Call.IsBestEffort` — **the calls that decide nothing**; `Request.AlikeAnswers` — answers that
  differ in those alone;
* `Routine.Alike` — **routines that go on alike** whatever such calls are answered, but for the
  pictures that they tell;
* `Routine.alike_bind`, `Attempt.alike_bind` — sequences of them; `Routine.alike_self` — a routine
  that puts no such call is alike;
* `Setting.Alike` — **settings that answer alike** but for the results of such calls;
* `Setting.Alike.run` — alike routines in alike settings make the same calls at the same times, tell
  the same but for pictures, and come to the same end;
* `Simulation.setting_alike` — simulated pages that differ in those results are alike.
-/

namespace Playback

open Routine

/-! ## Answers -/

/-- **The calls that are made as well as they go**: what becomes of them decides nothing. -/
def Call.IsBestEffort : Call → Prop
  | screenshot | close | loadState .. => True
  | _ => False

/-- Answers to a call that are the same, unless the call decides nothing. -/
def Call.AlikeAnswers (c : Call) (a b : c.Answer) : Prop := c.IsBestEffort ∨ a = b

/-- **Guarded calls that end alike**: both refused, both interrupted, or both answered, with answers
in a relation. -/
inductive Guarded.Rel {α : Type} (S : α → α → Prop) : Guarded α → Guarded α → Prop where
  | refused : Guarded.Rel S .refused .refused
  | interrupted : Guarded.Rel S .interrupted .interrupted
  | answered {a b : α} (alike : S a b) : Guarded.Rel S (.answered a) (.answered b)

namespace Request

/-- **Answers to a request that differ in what decides nothing** alone. -/
def AlikeAnswers : (q : Request) → q.Answer → q.Answer → Prop
  | shielded c => c.AlikeAnswers
  | guarded c => Guarded.Rel c.AlikeAnswers
  | inside c => Option.Rel c.AlikeAnswers
  | check => Eq
  | clock => Eq
  | now => Eq
  | tell _ => fun _ _ => True

/-- Requests that put no call that decides nothing. -/
def IsDecisive : Request → Prop
  | shielded c | guarded c | inside c => ¬ c.IsBestEffort
  | check | clock | now | tell _ => True

/-- Alike answers to other requests are the same. -/
theorem eq_of_alikeAnswers {q : Request} (decisive : q.IsDecisive) {x y : q.Answer}
    (alike : q.AlikeAnswers x y) : x = y := by
  cases q with
  | shielded c => exact alike.resolve_left decisive
  | guarded c =>
    cases alike with
    | refused => rfl
    | interrupted => rfl
    | answered same => exact congrArg Guarded.answered (same.resolve_left decisive)
  | inside c =>
    cases alike with
    | none => rfl
    | some same => exact congrArg some (same.resolve_left decisive)
  | check => exact alike
  | clock => exact alike
  | now => exact alike
  | tell m => rfl

/-- Alike answers are answers to calls that are started alike. -/
theorem started?_of_alikeAnswers {q : Request} {x y : q.Answer} (alike : q.AlikeAnswers x y) :
    Answered.started? ⟨q, x⟩ = Answered.started? ⟨q, y⟩ := by
  cases q with
  | guarded c => cases alike <;> rfl
  | shielded c => rfl
  | inside c => rfl
  | check => rfl
  | clock => rfl
  | now => rfl
  | tell m => rfl

/-- Alike answers are answers to the same report. -/
theorem event?_of_alikeAnswers {q : Request} {x y : q.Answer} (alike : q.AlikeAnswers x y) :
    Answered.event? ⟨q, x⟩ = Answered.event? ⟨q, y⟩ := by
  cases q <;> rfl

end Request

/-! ## Messages -/

/-- A report without its picture. -/
def ProgressEvent.unpictured (e : ProgressEvent) : ProgressEvent := { e with screenshot := none }

/-- A message without its picture. -/
def StreamMessage.unpictured : StreamMessage → StreamMessage
  | progress e => progress e.unpictured
  | m => m

/-- Messages that are the same but for their pictures report the same but for them. -/
theorem StreamMessage.event?_of_unpictured {m₁ m₂ : StreamMessage}
    (same : m₁.unpictured = m₂.unpictured) :
    (Answered.event? ⟨.tell m₁, ()⟩).toList.map ProgressEvent.unpictured =
      (Answered.event? ⟨.tell m₂, ()⟩).toList.map ProgressEvent.unpictured := by
  cases m₁ <;> cases m₂ <;> simp_all [unpictured, Answered.event?, Answered.message?]

/-! ## Routines -/

namespace Routine

variable {α β γ δ : Type} {S : α → β → Prop} {T : γ → δ → Prop}

/-- **Routines that go on alike**, whatever the calls that decide nothing are answered: they put the
same requests, tell the same but for pictures, and are done with related results. -/
inductive Alike (S : α → β → Prop) : Routine α → Routine β → Prop where
  | done {a : α} {b : β} (related : S a b) : Alike S (.done a) (.done b)
  | ask (q : Request) {k₁ : q.Answer → Routine α} {k₂ : q.Answer → Routine β}
      (following : ∀ x y, q.AlikeAnswers x y → Alike S (k₁ x) (k₂ y)) :
      Alike S (.ask q k₁) (.ask q k₂)
  | tell {m₁ m₂ : StreamMessage} (same : m₁.unpictured = m₂.unpictured) {k₁ : Unit → Routine α}
      {k₂ : Unit → Routine β} (following : Alike S (k₁ ()) (k₂ ())) :
      Alike S (.ask (.tell m₁) k₁) (.ask (.tell m₂) k₂)

/-- **Alike routines are alike in sequence.** -/
theorem alike_bind {r₁ : Routine α} {r₂ : Routine β} {f₁ : α → Routine γ} {f₂ : β → Routine δ}
    (first : Alike S r₁ r₂) (second : ∀ a b, S a b → Alike T (f₁ a) (f₂ b)) :
    Alike T (r₁ >>= f₁) (r₂ >>= f₂) := by
  induction first with
  | done related => exact second _ _ related
  | ask q following ih => exact .ask q ih
  | tell same following ih => exact .tell same ih

/-- Alike routines stay alike with results in a wider relation. -/
theorem Alike.mono {S' : α → β → Prop} {r₁ : Routine α} {r₂ : Routine β} (h : Alike S r₁ r₂)
    (wider : ∀ a b, S a b → S' a b) : Alike S' r₁ r₂ := by
  induction h with
  | done related => exact .done (wider _ _ related)
  | ask q following ih => exact .ask q ih
  | tell same following ih => exact .tell same ih

/-- To tell messages that differ in their pictures alone is alike. -/
theorem alike_tell {m₁ m₂ : StreamMessage} (same : m₁.unpictured = m₂.unpictured) :
    Alike Eq (tell m₁) (tell m₂) :=
  .tell same (.done rfl)

/-- **Every routine has a transcript.** -/
theorem exists_yields (r : Routine α) : ∃ t a, Yields r t a :=
  ⟨_, _, (Simulation.solo { epoch := ⟨0, 0⟩ }).yields r {}⟩

/-- **A routine that puts no call that decides nothing** is alike. -/
theorem alike_self {r : Routine α} (decisive : ∀ t a, Yields r t a → t.Within Request.IsDecisive) :
    Alike Eq r r := by
  induction r with
  | done a => exact .done rfl
  | ask q k ih =>
    refine .ask q fun x y alike => ?_
    have within : ∀ t a, Yields (k x) t a → Transcript.Within Request.IsDecisive (⟨q, x⟩ :: t) :=
      fun t a h => decisive _ a (.ask x h)
    -- the request is decisive since some transcript begins with it
    obtain ⟨t, a, h⟩ := exists_yields (k x)
    obtain rfl := Request.eq_of_alikeAnswers (within t a h _ List.mem_cons_self) alike
    exact ih x fun t a h => ((Transcript.within_cons _ _ _).1 (within t a h)).2

/-- A request that puts no such call is alike. -/
theorem alike_request {q : Request} (decisive : q.IsDecisive) :
    Alike Eq (request q) (request q) :=
  .ask q fun _ _ alike => .done (Request.eq_of_alikeAnswers decisive alike)

/-- Pictures are alike, whatever they show. -/
theorem alike_screenshot : Alike (fun _ _ => True) Routine.screenshot Routine.screenshot := by
  refine .ask (.shielded .screenshot) fun x y _ => ?_
  cases x <;> cases y <;> exact .done trivial

end Routine

namespace Attempt

variable {α β γ δ : Type} {S : α → β → Prop} {T : γ → δ → Prop}

/-- **Attempts that end alike**: both break off for the same reason, or neither. -/
inductive EndAlike (S : α → β → Prop) : Except StepError α → Except StepError β → Prop where
  | ok {a : α} {b : β} (related : S a b) : EndAlike S (.ok a) (.ok b)
  | error (e : StepError) : EndAlike S (.error e) (.error e)

/-- Attempts with the same results end alike. -/
theorem endAlike_refl (r : Except StepError α) : EndAlike Eq r r := by
  cases r with
  | ok a => exact .ok rfl
  | error e => exact .error e

/-- Attempts that end alike with equal results end with the same. -/
theorem EndAlike.eq {r₁ r₂ : Except StepError α} (h : EndAlike Eq r₁ r₂) : r₁ = r₂ := by
  cases h with
  | ok same => rw [same]
  | error e => rfl

/-- **Attempts that go on alike.** -/
def Alike (S : α → β → Prop) (x : Attempt α) (y : Attempt β) : Prop :=
  Routine.Alike (EndAlike S) x.run y.run

/-- **Alike attempts are alike in sequence.** -/
theorem alike_bind {x : Attempt α} {y : Attempt β} {f : α → Attempt γ} {g : β → Attempt δ}
    (first : Alike S x y) (second : ∀ a b, S a b → Alike T (f a) (g b)) :
    Alike T (x >>= f) (y >>= g) := by
  refine Routine.alike_bind first fun r₁ r₂ ends => ?_
  cases ends with
  | ok related => exact second _ _ related
  | error e => exact .done (.error e)

/-- To return related results is alike. -/
theorem alike_pure {a : α} {b : β} (related : S a b) :
    Alike S (pure a : Attempt α) (pure b : Attempt β) :=
  .done (.ok related)

/-- To break off for one reason is alike. -/
theorem alike_throw (e : StepError) : Alike S (throw e : Attempt α) (throw e : Attempt β) :=
  .done (.error e)

/-- Alike routines are alike attempts. -/
theorem alike_lift {r₁ : Routine α} {r₂ : Routine β} (h : Routine.Alike S r₁ r₂) :
    Alike S (ExceptT.lift r₁ : Attempt α) (ExceptT.lift r₂ : Attempt β) :=
  Routine.alike_bind h fun _ _ related => .done (.ok related)

/-- **An attempt that puts no call that decides nothing** is alike. -/
theorem Keeps.alike {x : Attempt α} (h : Keeps Request.IsDecisive x) : Alike Eq x x := by
  have same : Routine.Alike Eq x.run x.run := Routine.alike_self fun _ _ yields => h.within yields
  refine same.mono fun r₁ r₂ eq => ?_
  rw [eq]
  exact endAlike_refl r₂

/-- Such an attempt is followed alike by what is alike. -/
theorem alike_bind_of_keeps {x : Attempt α} {f : α → Attempt γ} {g : α → Attempt δ}
    (first : Keeps Request.IsDecisive x) (second : ∀ a, Alike T (f a) (g a)) :
    Alike T (x >>= f) (x >>= g) := by
  refine alike_bind first.alike fun a b same => ?_
  rw [same]
  exact second b

/-- **The page settles alike**, whatever becomes of its phases. -/
theorem alike_settle (config : EngineConfig) : Alike Eq (settle config) (settle config) := by
  have through : ∀ timeout states,
      Alike Eq (settleThrough timeout states) (settleThrough timeout states) := by
    intro timeout states
    induction states with
    | nil => exact alike_pure rfl
    | cons state states ih =>
      refine Routine.Alike.ask (.guarded (.loadState state timeout)) fun x y alike => ?_
      cases alike with
      | refused => exact alike_throw .cancelled
      | interrupted => exact alike_throw .cancelled
      | answered _ => exact ih
  exact through _ _

end Attempt

/-! ## Settings -/

namespace Setting

variable {σ₁ σ₂ α β : Type}

/-- **Settings that answer alike** in related states, but for the results of calls that decide
nothing. Those too take the same time, and are given up alike. -/
structure Alike (e₁ : Setting σ₁) (e₂ : Setting σ₂) (R : σ₁ → σ₂ → Prop) : Prop where
  /-- The token is cancelled in both or in none. -/
  cancelled_eq : ∀ {s₁ s₂}, R s₁ s₂ → e₁.cancelled s₁ = e₂.cancelled s₂
  /-- The clocks show the same. -/
  clock_eq : ∀ {s₁ s₂}, R s₁ s₂ → e₁.clock s₁ = e₂.clock s₂
  /-- The time of day is the same. -/
  now_eq : ∀ {s₁ s₂}, R s₁ s₂ → e₁.now s₁ = e₂.now s₂
  /-- A call that is waited for whatever happens is answered alike. -/
  await_alike : ∀ {s₁ s₂}, R s₁ s₂ → ∀ c : Call,
    c.AlikeAnswers (e₁.await s₁ c).1 (e₂.await s₂ c).1
  /-- After it the states are related. -/
  await_related : ∀ {s₁ s₂}, R s₁ s₂ → ∀ c, R (e₁.await s₁ c).2 (e₂.await s₂ c).2
  /-- A call that is waited for together with the token is answered alike. -/
  race_alike : ∀ {s₁ s₂}, R s₁ s₂ → ∀ c : Call,
    Option.Rel c.AlikeAnswers (e₁.race s₁ c).1 (e₂.race s₂ c).1
  /-- After it the states are related. -/
  race_related : ∀ {s₁ s₂}, R s₁ s₂ → ∀ c, R (e₁.race s₁ c).2 (e₂.race s₂ c).2

namespace Alike

variable {e₁ : Setting σ₁} {e₂ : Setting σ₂} {R : σ₁ → σ₂ → Prop} {s₁ : σ₁} {s₂ : σ₂}

/-- A guarded call ends alike. -/
theorem guarded (alike : e₁.Alike e₂ R) (related : R s₁ s₂) (c : Call) :
    Guarded.Rel c.AlikeAnswers (e₁.surroundings.guarded s₁ c).1 (e₂.surroundings.guarded s₂ c).1 ∧
      R (e₁.surroundings.guarded s₁ c).2 (e₂.surroundings.guarded s₂ c).2 := by
  have token : e₁.surroundings.cancelled s₁ = e₂.surroundings.cancelled s₂ :=
    alike.cancelled_eq related
  have answers := alike.race_alike related c
  have after := alike.race_related related c
  have races₁ : e₁.surroundings.race s₁ c = e₁.race s₁ c := rfl
  have races₂ : e₂.surroundings.race s₂ c = e₂.race s₂ c := rfl
  rw [Surroundings.guarded, Surroundings.guarded, token, races₁, races₂]
  by_cases cancelled : e₂.surroundings.cancelled s₂ = true
  · rw [if_pos cancelled, if_pos cancelled]
    exact ⟨.refused, related⟩
  · rw [if_neg cancelled, if_neg cancelled]
    generalize e₁.race s₁ c = raced₁ at answers after
    generalize e₂.race s₂ c = raced₂ at answers after
    obtain ⟨answer₁, after₁⟩ := raced₁
    obtain ⟨answer₂, after₂⟩ := raced₂
    cases answers with
    | none => exact ⟨.interrupted, after⟩
    | some same => exact ⟨.answered same, after⟩

/-- **Every request is answered alike** in related states, and leaves them related. -/
theorem reply (alike : e₁.Alike e₂ R) (related : R s₁ s₂) (q : Request) :
    q.AlikeAnswers (e₁.world.reply s₁ q).1 (e₂.world.reply s₂ q).1 ∧
      R (e₁.world.reply s₁ q).2 (e₂.world.reply s₂ q).2 := by
  cases q with
  | shielded c => exact ⟨alike.await_alike related c, alike.await_related related c⟩
  | guarded c => exact alike.guarded related c
  | inside c => exact ⟨alike.race_alike related c, alike.race_related related c⟩
  | check => exact ⟨alike.cancelled_eq related, related⟩
  | clock => exact ⟨alike.clock_eq related, related⟩
  | now => exact ⟨alike.now_eq related, related⟩
  | tell m => exact ⟨trivial, related⟩

/-- **Alike routines in alike settings** make the same calls at the same times, report the same but
for pictures, and come to related results. -/
theorem run (alike : e₁.Alike e₂ R) {S : α → β → Prop} {r₁ : Routine α} {r₂ : Routine β}
    (routines : Routine.Alike S r₁ r₂) (related : R s₁ s₂) :
    e₁.timedCalls r₁ s₁ = e₂.timedCalls r₂ s₂ ∧
      (e₁.world.events r₁ s₁).map ProgressEvent.unpictured =
        (e₂.world.events r₂ s₂).map ProgressEvent.unpictured ∧
      S (e₁.world.run r₁ s₁).1 (e₂.world.run r₂ s₂).1 := by
  induction routines generalizing s₁ s₂ with
  | done results => exact ⟨rfl, rfl, results⟩
  | ask q following ih =>
    obtain ⟨answers, after⟩ := alike.reply related q
    obtain ⟨calls, events, results⟩ := ih _ _ answers after
    have started := Request.started?_of_alikeAnswers answers
    have reported := Request.event?_of_alikeAnswers answers
    refine ⟨?_, ?_, results⟩
    · rw [timedCalls_ask, timedCalls_ask, calls, started, alike.clock_eq related]
    · rw [events_ask, events_ask, List.map_append, List.map_append, events, reported]
  | @tell m₁ m₂ same k₁ k₂ following ih =>
    obtain ⟨calls, events, results⟩ := ih related
    have reported := StreamMessage.event?_of_unpictured same
    have told₁ : e₁.world.events (.ask (.tell m₁) k₁) s₁ =
        (Answered.event? ⟨.tell m₁, ()⟩).toList ++ e₁.world.events (k₁ ()) s₁ :=
      events_ask e₁ (.tell m₁) k₁ s₁
    have told₂ : e₂.world.events (.ask (.tell m₂) k₂) s₂ =
        (Answered.event? ⟨.tell m₂, ()⟩).toList ++ e₂.world.events (k₂ ()) s₂ :=
      events_ask e₂ (.tell m₂) k₂ s₂
    refine ⟨calls, ?_, results⟩
    rw [told₁, told₂, List.map_append, List.map_append, events, reported]

end Alike

end Setting

/-! ## Simulated pages -/

namespace Simulation

variable {script : Script}

/-- A simulated page with other pictures, another closing and other phases. -/
def Script.withResults (script : Script) (screenshot : Except PageFault (List UInt8))
    (close : Except PageFault Unit) (phase : LoadState → Phase) : Script :=
  { script with screenshot, close, phase }

/-- **No wait for a phase hangs**: each is answered at once. -/
def Script.AnswersPhases (script : Script) : Prop := ∀ state, script.phase state ≠ .hangs

/-- **A call that decides nothing is answered at once** where no wait for a phase hangs. -/
theorem Scene.start_of_isBestEffort (phases : script.AnswersPhases) {c : Call}
    (free : c.IsBestEffort) (s : Scene) : ∃ x, s.start script c = (.answered x, s) := by
  cases c with
  | screenshot => exact ⟨script.screenshot, rfl⟩
  | close => exact ⟨script.close, rfl⟩
  | loadState state timeout =>
    have answers := phases state
    rw [start, awaitPhase]
    cases ends : script.phase state with
    | reached => exact ⟨.ok (), rfl⟩
    | hangs => exact absurd ends answers
    | fails e => exact ⟨.error e, rfl⟩
  | _ => exact free.elim

section

variable {screenshot : Except PageFault (List UInt8)} {close : Except PageFault Unit}
  {phase : LoadState → Phase}

/-- The other calls are started in the same way. -/
theorem Scene.start_withResults {c : Call} (decisive : ¬ c.IsBestEffort) (s : Scene) :
    s.start (script.withResults screenshot close phase) c = s.start script c := by
  cases c with
  | screenshot => exact absurd trivial decisive
  | close => exact absurd trivial decisive
  | loadState state timeout => exact absurd trivial decisive
  | _ => rfl

/-- Calls are noted in the same way. -/
theorem Solo.noteCall_withResults (s : Solo) (c : Call) :
    s.noteCall (script.withResults screenshot close phase) c = s.noteCall script c := by
  cases c <;> rfl

/-- **Simulated pages are alike** that differ in pictures, in their closing and in their phases. -/
theorem setting_alike (phases : script.AnswersPhases)
    (phases' : (script.withResults screenshot close phase).AnswersPhases) :
    (setting script).Alike (setting (script.withResults screenshot close phase)) Eq := by
  have patient : ∀ (s : Solo) (c : Call),
      c.AlikeAnswers (s.patient script c).1
          (s.patient (script.withResults screenshot close phase) c).1 ∧
        (s.patient script c).2 = (s.patient (script.withResults screenshot close phase) c).2 := by
    intro s c
    rw [Solo.patient, Solo.patient, Solo.noteCall_withResults]
    by_cases free : c.IsBestEffort
    · obtain ⟨x, starts⟩ := Scene.start_of_isBestEffort phases free (s.noteCall script c).scene
      obtain ⟨y, starts'⟩ := Scene.start_of_isBestEffort phases' free (s.noteCall script c).scene
      rw [starts, starts']
      exact ⟨.inl free, rfl⟩
    · rw [Scene.start_withResults free]
      exact ⟨.inr rfl, rfl⟩
  have impatient : ∀ (s : Solo) (c : Call),
      Option.Rel c.AlikeAnswers (s.impatient script c).1
          (s.impatient (script.withResults screenshot close phase) c).1 ∧
        (s.impatient script c).2 =
          (s.impatient (script.withResults screenshot close phase) c).2 := by
    intro s c
    rw [Solo.impatient, Solo.impatient, Solo.noteCall_withResults]
    by_cases free : c.IsBestEffort
    · obtain ⟨x, starts⟩ := Scene.start_of_isBestEffort phases free (s.noteCall script c).scene
      obtain ⟨y, starts'⟩ := Scene.start_of_isBestEffort phases' free (s.noteCall script c).scene
      rw [starts, starts']
      exact ⟨.some (.inl free), rfl⟩
    · rw [Scene.start_withResults free]
      refine ⟨?_, rfl⟩
      generalize (_ : Option c.Answer × Solo).1 = answer
      cases answer with
      | none => exact .none
      | some a => exact .some (.inr rfl)
  constructor
  · rintro s - rfl
    rfl
  · rintro s - rfl
    rfl
  · rintro s - rfl
    rfl
  · rintro s - rfl c
    exact (patient s c).1
  · rintro s - rfl c
    exact (patient s c).2
  · rintro s - rfl c
    exact (impatient s c).1
  · rintro s - rfl c
    exact (impatient s c).2

end

end Simulation

end Playback
