import Playback.Proofs.Routine.Transcript
import Playback.Run.Handler.Registry

/-!
# What the parts of a handler ask for

Between its reports a handler asks for **work on the page** and nothing else, and it breaks off as
cancelled exactly when an answer shows that the run is cancelled.

* `Request.IsWork` — the requests of work: guarded calls on the page, pictures, look-ups and pauses
  of an acquisition, and readings of the clock and of the token;
* `Attempt.Keeps P x` — **`x` keeps to requests of a kind `P`**, and is cancelled exactly by an
  answer that shows the cancellation;
* one lemma for each part of the handlers, `keeps_guard` to `keeps_enterDigits`, over any kind `P`
  that allows what the part asks for.
-/

namespace Playback

open Routine

namespace Call

/-- **The calls on the page that cancellation keeps from being made**, and the pause of a step. -/
def IsStepCall : Call → Prop
  | goto .. | loadState .. | waitVisible .. | click _ | fill .. | press .. | text _ | state _
  | pause _ => True
  | openPage _ | screenshot | close | lookup .. | backoff _ => False

/-- The calls of an acquisition. -/
def IsAcquisitionCall : Call → Prop
  | lookup .. | backoff _ => True
  | _ => False

end Call

/-- **Requests of work on the page.** -/
def Request.IsWork : Request → Prop
  | shielded call => call = .screenshot
  | guarded call => call.IsStepCall
  | inside call => call.IsAcquisitionCall
  | check | clock | now => True
  | tell _ => False

/-- A picture of the page is work. -/
theorem Request.isWork_screenshot : IsWork (.shielded .screenshot) := rfl

/-- A picture in base 64, none if it could not be taken. -/
def pictureOf : Except PageFault (List UInt8) → Option String
  | .ok png => some (Text.encodeBase64 png)
  | .error _ => none

/-- A picture is taken by one request. -/
theorem yields_screenshot {t : Transcript} {taken : Option String}
    (h : Yields Routine.screenshot t taken) :
    ∃ shot, t = [⟨.shielded .screenshot, shot⟩] ∧ taken = pictureOf shot := by
  rw [Routine.screenshot, yields_request_bind] at h
  obtain ⟨shot, u, rfl, hu⟩ := h
  cases shot with
  | ok png =>
    obtain ⟨rfl, rfl⟩ := yields_pure.1 hu
    exact ⟨.ok png, rfl, rfl⟩
  | error e =>
    obtain ⟨rfl, rfl⟩ := yields_pure.1 hu
    exact ⟨.error e, rfl, rfl⟩

namespace Attempt

variable {α β : Type} {P : Request → Prop}

/-- **An attempt keeps to requests of a kind**, and is cancelled exactly by an answer that shows the
cancellation. -/
structure Keeps (P : Request → Prop) (x : Attempt α) : Prop where
  /-- All requests are of the kind. -/
  within : ∀ {t r}, Yields x.run t r → t.Within P
  /-- The attempt ends as cancelled iff the cancellation was shown. -/
  cancelled_iff : ∀ {t r}, Yields x.run t r → (r = .error .cancelled ↔ t.ShowsCancellation)

/-- To return asks for nothing. -/
theorem keeps_pure (a : α) : Keeps P (pure a : Attempt α) where
  within h := by
    obtain ⟨rfl, rfl⟩ := yields_run_pure.1 h
    exact Transcript.within_nil P
  cancelled_iff h := by
    obtain ⟨rfl, rfl⟩ := yields_run_pure.1 h
    simp

/-- To break off asks for nothing; only cancellation may be called so. -/
theorem keeps_throw {e : StepError} (he : e ≠ .cancelled) : Keeps P (throw e : Attempt α) where
  within h := by
    obtain ⟨rfl, rfl⟩ := yields_run_throw.1 h
    exact Transcript.within_nil P
  cancelled_iff h := by
    obtain ⟨rfl, rfl⟩ := yields_run_throw.1 h
    simpa using he

/-- **Attempts that keep to a kind keep to it in sequence.** -/
theorem keeps_bind {x : Attempt α} {f : α → Attempt β} (hx : Keeps P x)
    (hf : ∀ a, Keeps P (f a)) : Keeps P (x >>= f) where
  within h := by
    rcases yields_run_bind.1 h with ⟨e, h₁, rfl⟩ | ⟨t₁, a, t₂, rfl, h₁, h₂⟩
    · exact hx.within h₁
    · exact (Transcript.within_append P t₁ t₂).2 ⟨hx.within h₁, (hf a).within h₂⟩
  cancelled_iff h := by
    rcases yields_run_bind.1 h with ⟨e, h₁, rfl⟩ | ⟨t₁, a, t₂, rfl, h₁, h₂⟩
    · simpa using hx.cancelled_iff h₁
    · have calm : ¬ t₁.ShowsCancellation := fun hc => nomatch (hx.cancelled_iff h₁).2 hc
      rw [(hf a).cancelled_iff h₂, Transcript.showsCancellation_append, or_iff_right calm]

/-- A lifted routine keeps to a kind if it does so and shows no cancellation. -/
theorem keeps_lift {r : Routine α}
    (h : ∀ t a, Yields r t a → t.Within P ∧ ¬ t.ShowsCancellation) :
    Keeps P (ExceptT.lift r : Attempt α) where
  within hy := by
    obtain ⟨a, ha, -⟩ := yields_run_lift.1 hy
    exact (h _ a ha).1
  cancelled_iff hy := by
    obtain ⟨a, ha, rfl⟩ := yields_run_lift.1 hy
    exact iff_of_false (fun h => nomatch h) (h _ a ha).2

/-- A single request whose answers show no cancellation. -/
theorem keeps_request {q : Request} (hq : P q) (calm : ∀ x, ¬ Answered.ShowsCancellation ⟨q, x⟩) :
    Keeps P (ExceptT.lift (Routine.request q) : Attempt q.Answer) := by
  refine keeps_lift fun t x h => ?_
  rw [yields_request] at h
  subst h
  simpa using ⟨hq, calm x⟩

/-- The clock is read. -/
theorem keeps_clock (h : P .clock) : Keeps P clock :=
  keeps_request h fun _ hc => hc

/-- The picture of the page is taken; that this fails breaks nothing off. -/
theorem keeps_screenshot (h : P (.shielded .screenshot)) : Keeps P screenshot := by
  refine keeps_lift fun t a hy => ?_
  obtain ⟨shot, rfl, -⟩ := yields_screenshot hy
  simpa [Answered.ShowsCancellation] using h

/-- **A guarded call is one request.** The attempt returns its answer, or is cancelled for want of
one. -/
theorem yields_guard {c : Call} {t : Transcript} {r : Except StepError c.Answer}
    (h : Yields (guard c).run t r) :
    ((t = [⟨.guarded c, .refused⟩] ∨ t = [⟨.guarded c, .interrupted⟩]) ∧
      r = .error .cancelled) ∨
    ∃ a, t = [⟨.guarded c, .answered a⟩] ∧ r = .ok a := by
  rw [guard, yields_run_request_bind] at h
  obtain ⟨x, u, rfl, hu⟩ := h
  cases x with
  | answered a =>
    obtain ⟨rfl, rfl⟩ := yields_run_pure.1 hu
    exact .inr ⟨a, rfl, rfl⟩
  | refused =>
    obtain ⟨rfl, rfl⟩ := yields_run_throw.1 hu
    exact .inl ⟨.inl rfl, rfl⟩
  | interrupted =>
    obtain ⟨rfl, rfl⟩ := yields_run_throw.1 hu
    exact .inl ⟨.inr rfl, rfl⟩

/-- A guarded call is refused or given up, or another attempt goes on with its answer. -/
theorem yields_guard_bind {c : Call} {f : c.Answer → Attempt β} {t : Transcript}
    {r : Except StepError β} (h : Yields (guard c >>= f).run t r) :
    ((t = [⟨.guarded c, .refused⟩] ∨ t = [⟨.guarded c, .interrupted⟩]) ∧
      r = .error .cancelled) ∨
    ∃ a u, t = ⟨.guarded c, .answered a⟩ :: u ∧ Yields (f a).run u r := by
  rcases yields_run_bind.1 h with ⟨e, h₁, rfl⟩ | ⟨t₁, a, t₂, rfl, h₁, h₂⟩
  · rcases yields_guard h₁ with ⟨unanswered, same⟩ | ⟨a, -, same⟩
    · exact .inl ⟨unanswered, congrArg _ (Except.error.inj same)⟩
    · exact nomatch same
  · rcases yields_guard h₁ with ⟨-, same⟩ | ⟨b, rfl, same⟩
    · exact nomatch same
    · obtain rfl := Except.ok.inj same
      exact .inr ⟨a, t₂, rfl, h₂⟩

/-- **A guarded call is cancelled exactly when it has no answer.** -/
theorem keeps_guard {c : Call} (h : P (.guarded c)) : Keeps P (guard c) where
  within hy := by
    rcases yields_guard hy with ⟨rfl | rfl, -⟩ | ⟨a, rfl, -⟩ <;> simpa using h
  cancelled_iff hy := by
    rcases yields_guard hy with ⟨rfl | rfl, rfl⟩ | ⟨a, rfl, rfl⟩ <;>
      simp [Answered.ShowsCancellation]

/-- A fault of the page is no cancellation. -/
theorem keeps_orFault (x : Except PageFault α) : Keeps P (orFault x) := by
  cases x with
  | ok a => exact keeps_pure a
  | error e => exact keeps_throw (fun h => nomatch h)

/-- A fault breaks off, and anything else goes on. -/
theorem yields_orFault_bind {x : Except PageFault α} {f : α → Attempt β} {t : Transcript}
    {r : Except StepError β} (h : Yields (orFault x >>= f).run t r) :
    (∃ e, x = .error e ∧ t = [] ∧ r = .error (.page e)) ∨ ∃ a, x = .ok a ∧ Yields (f a).run t r := by
  cases x with
  | ok a => exact .inr ⟨a, rfl, h⟩
  | error e => exact .inl ⟨e, rfl, yields_run_throw.1 h⟩

/-- The phases of the page are waited for. -/
theorem keeps_settle (h : ∀ state timeout, P (.guarded (.loadState state timeout)))
    (config : EngineConfig) : Keeps P (settle config) := by
  have through : ∀ timeout states, Keeps P (settleThrough timeout states) := by
    intro timeout states
    induction states with
    | nil => exact keeps_pure ()
    | cons state states ih => exact keeps_bind (keeps_guard (h state timeout)) fun _ => ih
  exact through _ _

/-- Only cancellation keeps the page from settling. -/
theorem eq_cancelled_of_settle {config : EngineConfig} {t : Transcript} {e : StepError}
    (h : Yields (settle config).run t (.error e)) : e = .cancelled := by
  have through : ∀ timeout states {t : Transcript},
      Yields (settleThrough timeout states).run t (.error e) → e = .cancelled := by
    intro timeout states
    induction states with
    | nil => exact fun h => nomatch (yields_run_pure.1 h).2
    | cons state states ih =>
      intro t h
      rcases yields_guard_bind h with ⟨-, same⟩ | ⟨answer, u, rfl, hu⟩
      · exact Except.error.inj same
      · exact ih hu
  exact through _ _ h

/-- The candidates of an element are waited for. -/
theorem keeps_resolve (h : ∀ query timeout, P (.guarded (.waitVisible query timeout)))
    (primary fallback : Nat) (candidates : List Selector) :
    Keeps P (resolve primary fallback candidates) := by
  have rest : ∀ candidates position attempts,
      Keeps P (resolveFrom primary fallback candidates position attempts) := by
    intro candidates
    induction candidates with
    | nil => exact fun _ _ => keeps_pure _
    | cons selector rest ih =>
      intro position attempts
      rw [resolveFrom]
      split
      · exact ih _ _
      · refine keeps_bind (keeps_guard (h _ _)) fun answer => ?_
        split
        · exact keeps_pure _
        · exact ih _ _
  exact rest candidates 0 0

/-- The search with configured timeouts. -/
theorem keeps_resolveWithin (h : ∀ query timeout, P (.guarded (.waitVisible query timeout)))
    (config : EngineConfig) (primaryMs : Nat) (candidates : List Selector) :
    Keeps P (resolveWithin config primaryMs candidates) :=
  keeps_resolve h _ _ candidates

/-- A text is typed. -/
theorem keeps_typeInto (h : ∀ query value, P (.guarded (.fill query value))) (query : String)
    (input : Option String) : Keeps P (typeInto query input) := by
  cases input with
  | none => exact keeps_pure _
  | some value =>
    refine keeps_bind (keeps_guard (h query value)) fun answer => ?_
    exact keeps_bind (keeps_orFault answer) fun _ => keeps_pure _

/-- The Enter key is pressed. -/
theorem keeps_submitted (h : ∀ query key, P (.guarded (.press query key))) (query : String)
    (submit : Bool) (action : String) : Keeps P (submitted query submit action) := by
  rw [submitted]
  split
  · refine keeps_bind (keeps_guard (h query "Enter")) fun answer => ?_
    exact keeps_bind (keeps_orFault answer) fun _ => keeps_pure _
  · exact keeps_pure _

/-- The text or the state of an element is asked for. -/
theorem keeps_examine (ht : ∀ query, P (.guarded (.text query)))
    (hs : ∀ query, P (.guarded (.state query))) (kind : AssertKind) (query expected : String) :
    Keeps P (examine kind query expected) := by
  rw [examine]
  split
  · refine keeps_bind (keeps_guard (ht query)) fun answer => ?_
    exact keeps_bind (keeps_orFault answer) fun _ => keeps_pure _
  · refine keeps_bind (keeps_guard (hs query)) fun answer => ?_
    exact keeps_bind (keeps_orFault answer) fun _ => keeps_pure _

/-- The characters of a code are typed. -/
theorem keeps_enterDigits (h : ∀ query value, P (.guarded (.fill query value))) (base : String)
    (digits : List Char) (position : Nat) : Keeps P (enterDigits base digits position) := by
  induction digits generalizing position with
  | nil => exact keeps_pure none
  | cons c cs ih =>
    rw [enterDigits]
    refine keeps_bind (keeps_guard (h _ _)) fun answer => ?_
    cases answer with
    | ok _ => exact ih (position + 1)
    | error e => exact keeps_pure _

end Attempt

/-! ## Acquisitions -/

namespace Passcode

open Attempt

variable {P : Request → Prop}

/-- **The look-ups of an acquisition** keep to calls inside it, and are interrupted exactly when one
of them has no answer. -/
theorem yields_acquireFrom (h : ∀ c : Call, c.IsAcquisitionCall → P (.inside c)) {policy : Policy}
    {username : String} {reference : Instant} {left attempt : Nat} {t : Transcript}
    {a : Acquisition} (hy : Yields (acquireFrom policy username reference left attempt) t a) :
    t.Within P ∧ (a = .interrupted ↔ t.ShowsCancellation) := by
  induction left generalizing attempt t with
  | zero =>
    obtain ⟨rfl, rfl⟩ := yields_pure.1 hy
    simp
  | succ left ih =>
    rw [acquireFrom, yields_request_bind] at hy
    obtain ⟨x, u, rfl, hu⟩ := hy
    have lookup : P (.inside (.lookup (Channel.forAttempt attempt) username)) := h _ trivial
    cases x with
    | none =>
      obtain ⟨rfl, rfl⟩ := yields_pure.1 hu
      simpa [Answered.ShowsCancellation] using lookup
    | some answer =>
      cases ho : offered policy reference answer with
      | some code =>
        simp only [ho] at hu
        obtain ⟨rfl, rfl⟩ := yields_pure.1 hu
        simpa [Answered.ShowsCancellation] using lookup
      | none =>
        simp only [ho] at hu
        by_cases hl : left = 0
        · rw [if_pos hl] at hu
          obtain ⟨rfl, rfl⟩ := yields_pure.1 hu
          simpa [Answered.ShowsCancellation] using lookup
        · rw [if_neg hl, yields_request_bind] at hu
          obtain ⟨y, v, rfl, hv⟩ := hu
          have pause : P (.inside (.backoff (Span.ofMillis policy.backoffMs))) := h _ trivial
          cases y with
          | none =>
            obtain ⟨rfl, rfl⟩ := yields_pure.1 hv
            simpa [Answered.ShowsCancellation] using ⟨lookup, pause⟩
          | some _ =>
            obtain ⟨within, interrupted⟩ := ih hv
            simpa [Answered.ShowsCancellation, lookup, pause, within] using interrupted

/-- **A guarded acquisition** looks at the token and then keeps to calls inside it. -/
theorem keeps_acquireGuarded (hc : P .check)
    (h : ∀ c : Call, c.IsAcquisitionCall → P (.inside c)) (policy : Policy) (username : String)
    (reference : Instant) : Keeps P (acquireGuarded policy username reference) := by
  have parts : ∀ {t r}, Yields (acquireGuarded policy username reference).run t r →
      t.Within P ∧ (r = .error .cancelled ↔ t.ShowsCancellation) := by
    intro t r hy
    rw [acquireGuarded, yields_run_request_bind] at hy
    obtain ⟨cancelled, u, rfl, hu⟩ := hy
    cases cancelled with
    | true =>
      obtain ⟨rfl, rfl⟩ := yields_run_throw.1 hu
      simpa [Answered.ShowsCancellation] using hc
    | false =>
      rw [if_neg Bool.false_ne_true, yields_run_lift_bind] at hu
      obtain ⟨t₁, a, t₂, rfl, h₁, h₂⟩ := hu
      obtain ⟨within, interrupted⟩ := yields_acquireFrom h h₁
      cases a with
      | code code =>
        obtain ⟨rfl, rfl⟩ := yields_run_pure.1 h₂
        simpa [Answered.ShowsCancellation, hc, within] using interrupted
      | none =>
        obtain ⟨rfl, rfl⟩ := yields_run_pure.1 h₂
        simpa [Answered.ShowsCancellation, hc, within] using interrupted
      | interrupted =>
        obtain ⟨rfl, rfl⟩ := yields_run_throw.1 h₂
        simpa [Answered.ShowsCancellation, hc, within] using interrupted
  exact ⟨fun hy => (parts hy).1, fun hy => (parts hy).2⟩

/-- Guarded acquisitions are made until one gives a code. -/
theorem keeps_acquireWithin (hc : P .check)
    (h : ∀ c : Call, c.IsAcquisitionCall → P (.inside c)) (policy : Policy) (username : String)
    (reference : Instant) (rounds : Nat) :
    Keeps P (acquireWithin policy username reference rounds) := by
  induction rounds with
  | zero => exact keeps_pure _
  | succ rounds ih =>
    rw [acquireWithin]
    refine keeps_bind (keeps_acquireGuarded hc h policy username reference) fun code? => ?_
    cases code? with
    | some code => exact keeps_pure _
    | none => exact ih

end Passcode

end Playback
