import Playback.Passcode.Acquire
import Playback.Proofs.Passcode.Freshness
import Playback.Proofs.Routine.Transcript

/-!
# The course of an acquisition

What an acquisition of a passcode does, along its requests with their answers.

* `Deed`, `Transcript.deeds` — **what shows of a passcode step**: clicks, readings of the time of
  day, look-ups and fills, in order;
* `Passcode.Seeks` — **the transcripts of an acquisition**, one case for each way that a look-up can
  go; `seeks_of_yields` says that there are no others, and `Seeks.yields` that these are;
* `Passcode.Searched` — what comes of some look-ups: all were stale but the last, or all of so many;
* `searched_of_yields_acquireWithin` — **several acquisitions in a row** are like one that is as
  long as all of them.
-/

namespace Playback

open Routine

/-! ## Deeds -/

/-- **What shows of a passcode step.** -/
inductive Deed where
  /-- An element is clicked. -/
  | clicks (query : String) (succeeds : Bool)
  /-- The time of day is read. -/
  | reads (instant : Instant)
  /-- A code is looked up, and perhaps one is offered. -/
  | looksUp (channel : Channel) (username : String) (offer : Option IssuedCode)
  /-- A value is put into an element. -/
  | fills (query value : String) (succeeds : Bool)
  deriving DecidableEq, Repr

namespace Deed

/-- Whether the answer to a call on an element, if there is one, is a success. -/
def succeeded {ε : Type} : Option (Except ε Unit) → Bool
  | some (.ok _) => true
  | _ => false

/-- The code that the answer to a look-up, if there is one, offers. -/
def offer? : Option (Except LookupFault (Option IssuedCode)) → Option IssuedCode
  | some (.ok offer) => offer
  | _ => none

/-- The deed that a call is, with its answer. -/
def ofCall? : (c : Call) → Option c.Answer → Option Deed
  | .click query, a => some (.clicks query (succeeded a))
  | .fill query value, a => some (.fills query value (succeeded a))
  | .lookup channel username, a => some (.looksUp channel username (offer? a))
  | _, _ => none

end Deed

/-- **The deed that a request is**, with its answer. A guarded call that is refused is none. -/
def Answered.deed? : Answered → Option Deed
  | ⟨.now, instant⟩ => some (.reads instant)
  | ⟨.shielded c, a⟩ => Deed.ofCall? c (some a)
  | ⟨.guarded _, .refused⟩ => none
  | ⟨.guarded c, .interrupted⟩ => Deed.ofCall? c none
  | ⟨.guarded c, .answered a⟩ => Deed.ofCall? c (some a)
  | ⟨.inside c, a⟩ => Deed.ofCall? c a
  | _ => none

namespace Transcript

/-- **The deeds of a transcript**, in order. -/
def deeds (t : Transcript) : List Deed := t.filterMap Answered.deed?

@[simp] theorem deeds_nil : deeds [] = [] := rfl

@[simp] theorem deeds_cons (x : Answered) (t : Transcript) :
    deeds (x :: t) = x.deed?.toList ++ deeds t := by
  rw [deeds, List.filterMap_cons]
  cases x.deed? <;> rfl

@[simp] theorem deeds_append (t u : Transcript) : deeds (t ++ u) = deeds t ++ deeds u :=
  List.filterMap_append

end Transcript

namespace Passcode

variable {policy : Policy} {username : String} {reference : Instant}

/-! ## One acquisition -/

/-- A look-up of an acquisition, with its answer. -/
def lookingUp (username : String) (attempt : Nat)
    (a : Option (Except LookupFault (Option IssuedCode))) : Answered :=
  ⟨.inside (.lookup (Channel.forAttempt attempt) username), a⟩

/-- A pause between two look-ups, with its answer. -/
def pausing (policy : Policy) (a : Option Unit) : Answered :=
  ⟨.inside (.backoff (Span.ofMillis policy.backoffMs)), a⟩

/-- **The transcripts of an acquisition** with so many look-ups left, the next of which is the given
attempt. -/
inductive Seeks (policy : Policy) (username : String) (reference : Instant) :
    Nat → Nat → Transcript → Acquisition → Prop where
  /-- No look-up is left. -/
  | spent {attempt : Nat} : Seeks policy username reference 0 attempt [] .none
  /-- A fresh code is offered. -/
  | found {left attempt : Nat} {c : IssuedCode}
      (fresh : c.isFresh reference policy.windowMs = true) :
      Seeks policy username reference (left + 1) attempt
        [lookingUp username attempt (some (.ok (some c)))] (.code c.code)
  /-- The look-up is given up. -/
  | givenUp {left attempt : Nat} :
      Seeks policy username reference (left + 1) attempt [lookingUp username attempt none]
        .interrupted
  /-- The last look-up offers no fresh code. -/
  | last {attempt : Nat} {answer : Except LookupFault (Option IssuedCode)}
      (stale : offered policy reference answer = none) :
      Seeks policy username reference 1 attempt [lookingUp username attempt (some answer)] .none
  /-- The pause after a look-up is given up. -/
  | pauseGivenUp {left attempt : Nat} {answer : Except LookupFault (Option IssuedCode)}
      (stale : offered policy reference answer = none) :
      Seeks policy username reference (left + 2) attempt
        [lookingUp username attempt (some answer), pausing policy none] .interrupted
  /-- A look-up offers no fresh code, and the acquisition goes on after a pause. -/
  | next {left attempt : Nat} {answer : Except LookupFault (Option IssuedCode)} {t : Transcript}
      {a : Acquisition} (stale : offered policy reference answer = none)
      (rest : Seeks policy username reference (left + 1) (attempt + 1) t a) :
      Seeks policy username reference (left + 2) attempt
        (lookingUp username attempt (some answer) :: pausing policy (some ()) :: t) a

/-- The code that is offered is that of a fresh answer. -/
theorem offered_eq_some {answer : Except LookupFault (Option IssuedCode)} {code : String}
    (h : offered policy reference answer = some code) :
    ∃ c, answer = .ok (some c) ∧ c.isFresh reference policy.windowMs = true ∧ c.code = code := by
  match answer with
  | .ok (some c) =>
    rw [offered] at h
    split at h
    · next fresh => exact ⟨c, rfl, fresh, Option.some.inj h⟩
    · exact nomatch h
  | .ok none => exact nomatch h
  | .error _ => exact nomatch h

/-- **An acquisition has no other transcripts.** -/
theorem seeks_of_yields {left attempt : Nat} {t : Transcript} {a : Acquisition}
    (h : Yields (acquireFrom policy username reference left attempt) t a) :
    Seeks policy username reference left attempt t a := by
  -- as look-ups get fewer, the number of the next one goes up
  induction left generalizing attempt t with
  | zero =>
    obtain ⟨rfl, rfl⟩ := yields_pure.1 h
    exact .spent
  | succ left ih =>
    rw [acquireFrom, yields_request_bind] at h
    obtain ⟨x, u, rfl, hu⟩ := h
    cases x with
    | none =>
      obtain ⟨rfl, rfl⟩ := yields_pure.1 hu
      exact .givenUp
    | some answer =>
      cases offers : offered policy reference answer with
      | some code =>
        simp only [offers] at hu
        obtain ⟨rfl, rfl⟩ := yields_pure.1 hu
        obtain ⟨c, rfl, fresh, rfl⟩ := offered_eq_some offers
        exact .found fresh
      | none =>
        simp only [offers] at hu
        cases left with
        | zero =>
          obtain ⟨rfl, rfl⟩ := yields_pure.1 hu
          exact .last offers
        | succ left =>
          rw [if_neg (Nat.succ_ne_zero left), yields_request_bind] at hu
          obtain ⟨y, v, rfl, hv⟩ := hu
          cases y with
          | none =>
            obtain ⟨rfl, rfl⟩ := yields_pure.1 hv
            exact .pauseGivenUp offers
          | some _ => exact .next offers (ih hv)

/-- **What is sought so** is a transcript of the acquisition. -/
theorem Seeks.yields {left attempt : Nat} {t : Transcript} {a : Acquisition}
    (h : Seeks policy username reference left attempt t a) :
    Yields (acquireFrom policy username reference left attempt) t a := by
  induction h with
  | spent => exact .done _
  | @found left attempt c fresh =>
    rw [acquireFrom, yields_request_bind]
    refine ⟨some (.ok (some c)), [], rfl, ?_⟩
    simp only [offered, if_pos fresh]
    exact .done _
  | givenUp =>
    rw [acquireFrom, yields_request_bind]
    exact ⟨none, [], rfl, .done _⟩
  | @last attempt answer stale =>
    rw [acquireFrom, yields_request_bind]
    refine ⟨some answer, [], rfl, ?_⟩
    simp only [stale]
    exact .done _
  | @pauseGivenUp left attempt answer stale =>
    rw [acquireFrom, yields_request_bind]
    refine ⟨some answer, _, rfl, ?_⟩
    simp only [stale, if_neg (Nat.succ_ne_zero left)]
    rw [yields_request_bind]
    exact ⟨none, [], rfl, .done _⟩
  | @next left attempt answer t a stale rest ih =>
    rw [acquireFrom, yields_request_bind]
    refine ⟨some answer, _, rfl, ?_⟩
    simp only [stale, if_neg (Nat.succ_ne_zero left)]
    rw [yields_request_bind]
    exact ⟨some (), t, rfl, ih⟩

/-! ## What comes of look-ups -/

/-- **A deed is a look-up** for a user that offers no fresh code. -/
def IsStale (policy : Policy) (username : String) (reference : Instant) (d : Deed) : Prop :=
  ∃ channel offer, d = .looksUp channel username offer ∧
    ∀ c, offer = some c → c.isFresh reference policy.windowMs = false

/-- An answer that offers no fresh code. -/
theorem isStale_of_offered {answer : Except LookupFault (Option IssuedCode)}
    (stale : offered policy reference answer = none) (channel : Channel) :
    IsStale policy username reference
      (.looksUp channel username (Deed.offer? (some answer))) := by
  refine ⟨channel, _, rfl, fun c offers => ?_⟩
  match answer with
  | .ok (some c') =>
    obtain rfl := Option.some.inj offers
    cases fresh : c'.isFresh reference policy.windowMs with
    | false => rfl
    | true => simp [offered, fresh] at stale
  | .ok none => exact nomatch offers
  | .error _ => exact nomatch offers

/-- **What comes of look-ups** for a user, of which there are so many. -/
inductive Searched (policy : Policy) (username : String) (reference : Instant) (count : Nat) :
    List Deed → Acquisition → Prop where
  /-- The last one offers a fresh code. -/
  | found (before : List Deed) {channel : Channel} {c : IssuedCode}
      (stale : ∀ d ∈ before, IsStale policy username reference d)
      (fresh : c.isFresh reference policy.windowMs = true) :
      Searched policy username reference count
        (before ++ [.looksUp channel username (some c)]) (.code c.code)
  /-- None of them does. -/
  | none {deeds : List Deed} (stale : ∀ d ∈ deeds, IsStale policy username reference d)
      (length_eq : deeds.length = count) : Searched policy username reference count deeds .none
  /-- None of those made before a cancellation does. -/
  | interrupted {deeds : List Deed} (stale : ∀ d ∈ deeds, IsStale policy username reference d) :
      Searched policy username reference count deeds .interrupted

/-- Look-ups that offer no fresh code may come before. -/
theorem Searched.append {n m : Nat} {deeds deeds' : List Deed} {a : Acquisition}
    (stale : ∀ d ∈ deeds, IsStale policy username reference d) (length_eq : deeds.length = n)
    (h : Searched policy username reference m deeds' a) :
    Searched policy username reference (n + m) (deeds ++ deeds') a := by
  cases h with
  | found before stale' fresh =>
    rw [← List.append_assoc]
    exact .found (deeds ++ before) (List.forall_mem_append.2 ⟨stale, stale'⟩) fresh
  | none stale' length_eq' =>
    exact .none (List.forall_mem_append.2 ⟨stale, stale'⟩)
      (by rw [List.length_append, length_eq, length_eq'])
  | interrupted stale' => exact .interrupted (List.forall_mem_append.2 ⟨stale, stale'⟩)

/-- **What comes of an acquisition** is what comes of its look-ups. -/
theorem Seeks.searched {left attempt : Nat} {t : Transcript} {a : Acquisition}
    (h : Seeks policy username reference left attempt t a) :
    Searched policy username reference left t.deeds a := by
  induction h with
  | spent => exact .none (List.forall_mem_nil _) rfl
  | @found left attempt c fresh =>
    exact .found [] (List.forall_mem_nil _) fresh
  | @givenUp left attempt =>
    exact .interrupted (List.forall_mem_singleton.2 ⟨_, none, rfl, nofun⟩)
  | @last attempt answer stale =>
    exact .none (List.forall_mem_singleton.2 (isStale_of_offered stale _)) rfl
  | @pauseGivenUp left attempt answer stale =>
    exact .interrupted (List.forall_mem_singleton.2 (isStale_of_offered stale _))
  | @next left attempt answer t a stale rest ih =>
    have first : ∀ d ∈ [Deed.looksUp (Channel.forAttempt attempt) username
        (Deed.offer? (some answer))], IsStale policy username reference d :=
      List.forall_mem_singleton.2 (isStale_of_offered stale _)
    have whole := Searched.append first rfl ih
    rwa [Nat.add_comm] at whole

/-! ## Several acquisitions in a row -/

/-- How an attempt at an acquisition ends. -/
def Acquisition.result : Acquisition → Except StepError (Option String)
  | code c => .ok (some c)
  | none => .ok Option.none
  | interrupted => .error .cancelled

/-- **A guarded acquisition** comes to what its look-ups come to. -/
theorem searched_of_yields_acquireGuarded {t : Transcript} {r : Except StepError (Option String)}
    (h : Yields (acquireGuarded policy username reference).run t r) :
    ∃ a, r = a.result ∧ Searched policy username reference policy.attempts t.deeds a := by
  rw [acquireGuarded, Attempt.yields_run_request_bind] at h
  obtain ⟨cancelled, u, rfl, hu⟩ := h
  cases cancelled with
  | true =>
    obtain ⟨rfl, rfl⟩ := Attempt.yields_run_throw.1 hu
    exact ⟨.interrupted, rfl, .interrupted (List.forall_mem_nil _)⟩
  | false =>
    rw [if_neg Bool.false_ne_true, Attempt.yields_run_lift_bind] at hu
    obtain ⟨t₁, a, t₂, rfl, h₁, h₂⟩ := hu
    have searched := (seeks_of_yields h₁).searched
    refine ⟨a, ?_⟩
    cases a with
    | code code =>
      obtain ⟨rfl, rfl⟩ := Attempt.yields_run_pure.1 h₂
      exact ⟨rfl, by simpa [Answered.deed?] using searched⟩
    | none =>
      obtain ⟨rfl, rfl⟩ := Attempt.yields_run_pure.1 h₂
      exact ⟨rfl, by simpa [Answered.deed?] using searched⟩
    | interrupted =>
      obtain ⟨rfl, rfl⟩ := Attempt.yields_run_throw.1 h₂
      exact ⟨rfl, by simpa [Answered.deed?] using searched⟩

/-- **Several acquisitions** come to what their look-ups come to, taken together. -/
theorem searched_of_yields_acquireWithin {rounds : Nat} {t : Transcript}
    {r : Except StepError (Option String)}
    (h : Yields (acquireWithin policy username reference rounds).run t r) :
    ∃ a, r = a.result ∧
      Searched policy username reference (rounds * policy.attempts) t.deeds a := by
  induction rounds generalizing t with
  | zero =>
    obtain ⟨rfl, rfl⟩ := Attempt.yields_run_pure.1 h
    exact ⟨.none, rfl, .none (List.forall_mem_nil _) (Nat.zero_mul _).symm⟩
  | succ rounds ih =>
    rw [Nat.succ_mul, Nat.add_comm]
    rcases Attempt.yields_run_bind.1 h with ⟨e, h₁, rfl⟩ | ⟨t₁, code?, t₂, rfl, h₁, h₂⟩
    · obtain ⟨a, eq, searched⟩ := searched_of_yields_acquireGuarded h₁
      generalize t.deeds = deeds at searched ⊢
      cases searched with
      | interrupted stale => exact ⟨.interrupted, eq, .interrupted stale⟩
      | found before stale fresh => exact nomatch eq
      | none stale length_eq => exact nomatch eq
    · obtain ⟨a, eq, searched⟩ := searched_of_yields_acquireGuarded h₁
      rw [Transcript.deeds_append]
      generalize t₁.deeds = deeds at searched ⊢
      cases searched with
      | interrupted stale => exact nomatch eq
      | found before stale fresh =>
        obtain rfl := Except.ok.inj eq
        obtain ⟨rfl, rfl⟩ := Attempt.yields_run_pure.1 h₂
        refine ⟨.code _, rfl, ?_⟩
        rw [Transcript.deeds_nil, List.append_nil]
        exact .found before stale fresh
      | none stale length_eq =>
        obtain rfl := Except.ok.inj eq
        obtain ⟨a, rfl, searched⟩ := ih h₂
        exact ⟨a, rfl, Searched.append stale length_eq searched⟩

end Passcode

end Playback
