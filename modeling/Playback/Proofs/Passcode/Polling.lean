import Mathlib.Algebra.Group.Nat.Even
import Playback.Proofs.Passcode.Acquisition

/-!
# How an acquisition polls

An acquisition that nothing interrupts, along the replies of the service.

* `Passcode.Attended` — **the service replies in a given order**, and nothing is given up;
* `Passcode.polling` — the calls of so many look-ups: the channels take turns, and a pause stands
  between every two;
* `Passcode.Decided` — after how many look-ups an acquisition comes to what;
* `Passcode.Polls`, `Passcode.acquire_polls` — **what an acquisition calls and returns**, for every
  sequence of replies.
-/

namespace Playback

open Routine

/-! ## Replies -/

namespace Passcode

/-- **A reply of the service** to a look-up. -/
abbrev Reply := Except LookupFault (Option IssuedCode)

/-- A reply brings a code, and it is fresh. -/
def Brings (policy : Policy) (reference : Instant) (reply : Reply) (c : IssuedCode) : Prop :=
  reply = .ok (some c) ∧ c.isFresh reference policy.windowMs = true

/-- **A reply brings no fresh code**: it is a fault, there is no code in it, or an old one. -/
def Misses (policy : Policy) (reference : Instant) (reply : Reply) : Prop :=
  ∀ c, ¬ Brings policy reference reply c

end Passcode

/-- What a look-up of an acquisition is answered with, `none` if it is given up. -/
def Answered.reply? : Answered → Option (Option Passcode.Reply)
  | ⟨.inside (.lookup _ _), answer⟩ => some answer
  | _ => none

/-- The answers to the look-ups of a transcript, in order. -/
def Transcript.replies (t : Transcript) : List (Option Passcode.Reply) :=
  t.filterMap Answered.reply?

namespace Passcode

variable {policy : Policy} {username : String} {reference : Instant} {replies : ℕ → Reply}

/-- **The service replies in a given order**, and no look-up or pause is given up. -/
structure Attended (replies : ℕ → Reply) (t : Transcript) : Prop where
  /-- Each look-up is answered with the reply of its number. -/
  in_order : ∀ {i : ℕ} {answer}, t.replies[i]? = some answer → answer = some (replies i)
  /-- No answer shows a cancellation. -/
  patient : ¬ t.ShowsCancellation

/-- A reply that misses offers nothing. -/
theorem misses_of_offered {reply : Reply} (stale : offered policy reference reply = none) :
    Misses policy reference reply := by
  rintro c ⟨rfl, fresh⟩
  rw [offered, if_pos fresh] at stale
  cases stale

/-! ## Attendance -/

namespace Attended

/-- Nothing needs to be attended. -/
theorem nil : Attended replies [] where
  in_order h := nomatch h
  patient := Transcript.not_showsCancellation_nil

variable {attempt : ℕ} {answer : Option Reply} {rested : Option Unit} {t : Transcript}

/-- A first look-up is answered with the first reply, and the rest with the others. -/
theorem look_up_iff :
    Attended replies (lookingUp username attempt answer :: t) ↔
      answer = some (replies 0) ∧ Attended (fun i => replies (i + 1)) t := by
  have heard : Transcript.replies (lookingUp username attempt answer :: t) =
      answer :: t.replies := rfl
  constructor
  · intro h
    have first : answer = some (replies 0) := h.in_order (by rw [heard]; rfl)
    refine ⟨first, fun {i answer'} at_i => ?_, fun shows => h.patient ?_⟩
    · exact h.in_order (i := i + 1) (by rw [heard, List.getElem?_cons_succ, at_i])
    · exact (Transcript.showsCancellation_cons _ _).2 (.inr shows)
  · rintro ⟨rfl, h⟩
    refine ⟨fun {i answer'} at_i => ?_, fun shows => ?_⟩
    · rw [heard] at at_i
      cases i with
      | zero => exact (Option.some.inj at_i).symm
      | succ i => exact h.in_order at_i
    · rcases (Transcript.showsCancellation_cons _ _).1 shows with here | later
      · exact nomatch here
      · exact h.patient later

/-- A pause is waited for. -/
theorem pause_iff :
    Attended replies (pausing policy rested :: t) ↔ rested = some () ∧ Attended replies t := by
  have heard : Transcript.replies (pausing policy rested :: t) = t.replies := rfl
  constructor
  · intro h
    have patient := h.patient
    rw [Transcript.showsCancellation_cons, not_or] at patient
    refine ⟨?_, fun at_i => h.in_order (heard ▸ at_i), patient.2⟩
    cases rested with
    | none => exact absurd rfl patient.1
    | some _ => rfl
  · rintro ⟨rfl, h⟩
    refine ⟨fun at_i => h.in_order (heard ▸ at_i), fun shows => ?_⟩
    rcases (Transcript.showsCancellation_cons _ _).1 shows with here | later
    · exact nomatch here
    · exact h.patient later

end Attended

/-! ## Calls -/

/-- The look-up of an attempt. -/
def lookUpCall (username : String) (attempt : ℕ) : Call :=
  .lookup (if Even attempt then .email else .phone) username

/-- The pause between two look-ups. -/
def pauseCall (policy : Policy) : Call := .backoff (Span.ofMillis policy.backoffMs)

/-- **The calls of so many look-ups** from an attempt on, with a pause between every two. -/
def polling (policy : Policy) (username : String) (attempt count : ℕ) : List Call :=
  ((List.range' attempt count).map (lookUpCall username)).intersperse (pauseCall policy)

/-- The channels take turns, and mail comes first. -/
theorem forAttempt_eq (attempt : ℕ) :
    Channel.forAttempt attempt = if Even attempt then .email else .phone := by
  simp only [Channel.forAttempt, Nat.even_iff]

/-- A look-up is started as the one of its attempt. -/
theorem started_lookingUp (username : String) (attempt : ℕ) (answer : Option Reply) :
    (lookingUp username attempt answer).started? = some (lookUpCall username attempt) := by
  rw [lookUpCall, ← forAttempt_eq]
  rfl

theorem polling_one (attempt : ℕ) :
    polling policy username attempt 1 = [lookUpCall username attempt] := rfl

theorem polling_add_two (attempt count : ℕ) :
    polling policy username attempt (count + 2) =
      lookUpCall username attempt :: pauseCall policy ::
        polling policy username (attempt + 1) (count + 1) := by
  simp only [polling, List.range'_succ, List.map_cons, List.intersperse_cons_cons]

/-- **The look-ups among the calls** are those of the attempts, in order. -/
theorem filter_polling (attempt count : ℕ) :
    (polling policy username attempt count).filter (· ≠ pauseCall policy) =
      (List.range' attempt count).map (lookUpCall username) := by
  induction count generalizing attempt with
  | zero => rfl
  | succ count ih =>
    have kept : lookUpCall username attempt ≠ pauseCall policy := Call.noConfusion
    cases count with
    | zero => simp [polling_one, kept]
    | succ count =>
      rw [polling_add_two, List.filter_cons_of_pos (by simpa using kept),
        List.filter_cons_of_neg (by simp), ih, List.range'_succ (s := attempt), List.map_cons]

/-- **One pause less than look-ups** stands among the calls. -/
theorem count_pauseCall_polling (attempt count : ℕ) :
    (polling policy username attempt count).count (pauseCall policy) = count - 1 := by
  induction count generalizing attempt with
  | zero => rfl
  | succ count ih =>
    have other : lookUpCall username attempt ≠ pauseCall policy := Call.noConfusion
    cases count with
    | zero => simp [polling_one, other]
    | succ count =>
      rw [polling_add_two, List.count_cons_of_ne other, List.count_cons_self, ih]
      omega

/-! ## The decision -/

/-- **After how many look-ups an acquisition comes to what**, if at most so many are made. -/
inductive Decided (policy : Policy) (reference : Instant) (replies : ℕ → Reply) (limit : ℕ) :
    ℕ → Acquisition → Prop where
  /-- A reply brings a fresh code, as the first one. -/
  | found {i : ℕ} {c : IssuedCode} (in_time : i < limit)
      (brings : Brings policy reference (replies i) c)
      (first : ∀ j < i, Misses policy reference (replies j)) :
      Decided policy reference replies limit (i + 1) (.code c.code)
  /-- No reply brings one. -/
  | none (missed : ∀ j < limit, Misses policy reference (replies j)) :
      Decided policy reference replies limit limit .none

namespace Decided

variable {limit count i : ℕ} {a : Acquisition} {c : IssuedCode}

/-- A reply that misses may come before. -/
theorem after_miss (missed : Misses policy reference (replies 0))
    (h : Decided policy reference (fun i => replies (i + 1)) limit count a) :
    Decided policy reference replies (limit + 1) (count + 1) a := by
  -- the others miss as they did, one look-up later
  have later : ∀ {n : ℕ}, (∀ j < n, Misses policy reference (replies (j + 1))) →
      ∀ j < n + 1, Misses policy reference (replies j) := by
    intro n others j hj
    cases j with
    | zero => exact missed
    | succ j => exact others j (Nat.lt_of_succ_lt_succ hj)
  cases h with
  | found in_time brings first => exact .found (Nat.succ_lt_succ in_time) brings (later first)
  | none missed => exact .none (later missed)

/-- Where one look-up may be made, one is made. -/
theorem count_pos (h : Decided policy reference replies (limit + 1) count a) : 0 < count := by
  cases h <;> exact Nat.succ_pos _

/-- **The first fresh reply decides.** -/
theorem eq_of_brings (h : Decided policy reference replies limit count a) (in_time : i < limit)
    (brings : Brings policy reference (replies i) c)
    (first : ∀ j < i, Misses policy reference (replies j)) :
    count = i + 1 ∧ a = .code c.code := by
  cases h with
  | none missed => exact absurd brings (missed i in_time c)
  | @found i' c' in_time' brings' first' =>
    rcases Nat.lt_trichotomy i i' with before | rfl | after
    · exact absurd brings (first' i before c)
    · have same : c' = c := by
        have eq := brings'.1.symm.trans brings.1
        exact Option.some.inj (Except.ok.inj eq)
      exact ⟨rfl, by rw [same]⟩
    · exact absurd brings' (first i' after c')

/-- **If none is fresh**, the limit decides. -/
theorem eq_of_misses (h : Decided policy reference replies limit count a)
    (missed : ∀ j < limit, Misses policy reference (replies j)) :
    count = limit ∧ a = .none := by
  cases h with
  | none _ => exact ⟨rfl, rfl⟩
  | found in_time brings first => exact absurd brings (missed _ in_time _)

end Decided

/-- **An attended acquisition** calls and decides as its replies have it. -/
theorem Seeks.decided {left attempt : ℕ} {t : Transcript} {a : Acquisition}
    (h : Seeks policy username reference left attempt t a) (attended : Attended replies t) :
    ∃ count, t.calls = polling policy username attempt count ∧
      Decided policy reference replies left count a := by
  induction h generalizing replies with
  | spent =>
    exact ⟨0, rfl, .none fun j hj => absurd hj (Nat.not_lt_zero j)⟩
  | @found left attempt c fresh =>
    obtain ⟨eq, -⟩ := Attended.look_up_iff.1 attended
    have reply_eq : replies 0 = .ok (some c) := (Option.some.inj eq).symm
    refine ⟨1, ?_, .found (Nat.succ_pos left) ⟨reply_eq, fresh⟩ fun j hj => ?_⟩
    · rw [Transcript.calls_cons, started_lookingUp, polling_one]
      rfl
    · exact absurd hj (Nat.not_lt_zero j)
  | givenUp =>
    obtain ⟨eq, -⟩ := Attended.look_up_iff.1 attended
    cases eq
  | @last attempt answer stale =>
    obtain ⟨eq, -⟩ := Attended.look_up_iff.1 attended
    obtain rfl := Option.some.inj eq
    refine ⟨1, ?_, .none fun j hj => ?_⟩
    · rw [Transcript.calls_cons, started_lookingUp, polling_one]
      rfl
    · rw [Nat.lt_one_iff.1 hj]
      exact misses_of_offered stale
  | pauseGivenUp stale =>
    obtain ⟨-, rest⟩ := Attended.look_up_iff.1 attended
    cases (Attended.pause_iff.1 rest).1
  | @next left attempt answer t a stale rest ih =>
    obtain ⟨eq, others⟩ := Attended.look_up_iff.1 attended
    obtain rfl := Option.some.inj eq
    obtain ⟨count, calls_eq, decided⟩ := ih (Attended.pause_iff.1 others).2
    obtain ⟨count, rfl⟩ := Nat.exists_eq_add_of_lt decided.count_pos
    rw [Nat.zero_add] at calls_eq decided
    refine ⟨count + 2, ?_, decided.after_miss (misses_of_offered stale)⟩
    rw [polling_add_two, Transcript.calls_cons, Transcript.calls_cons, started_lookingUp, calls_eq]
    rfl

/-- **Every sequence of replies** leads through an acquisition. -/
theorem exists_seeks (policy : Policy) (username : String) (reference : Instant)
    (replies : ℕ → Reply) (left attempt : ℕ) :
    ∃ t a, Seeks policy username reference left attempt t a ∧ Attended replies t := by
  induction left generalizing attempt replies with
  | zero => exact ⟨[], .none, .spent, .nil⟩
  | succ left ih =>
    cases offers : offered policy reference (replies 0) with
    | some code =>
      obtain ⟨c, reply_eq, fresh, -⟩ := offered_eq_some offers
      exact ⟨_, _, .found fresh, Attended.look_up_iff.2 ⟨by rw [reply_eq], .nil⟩⟩
    | none =>
      cases left with
      | zero => exact ⟨_, _, .last offers, Attended.look_up_iff.2 ⟨rfl, .nil⟩⟩
      | succ left =>
        obtain ⟨t, a, rest, attended⟩ := ih (fun i => replies (i + 1)) (attempt + 1)
        refine ⟨_, a, .next offers rest, Attended.look_up_iff.2 ⟨rfl, ?_⟩⟩
        exact Attended.pause_iff.2 ⟨rfl, attended⟩

/-! ## The whole acquisition -/

/-- **What an acquisition calls and returns** when the service replies in a given order. -/
structure Polls (policy : Policy) (username : String) (reference : Instant) (replies : ℕ → Reply)
    (t : Transcript) (a : Acquisition) : Prop where
  /-- The acquisition comes to its end. -/
  returns : a ≠ .interrupted
  /-- A code is returned exactly if it is that of the first fresh reply among so many. -/
  code_iff : ∀ {code}, a = .code code ↔ ∃ i < policy.attempts, ∃ c,
    Brings policy reference (replies i) c ∧ (∀ j < i, Misses policy reference (replies j)) ∧
      c.code = code
  /-- None is returned exactly if no reply among so many is fresh. -/
  none_iff : a = .none ↔ ∀ i < policy.attempts, Misses policy reference (replies i)
  /-- The look-ups end with the first fresh reply. -/
  calls_of_brings : ∀ {i c}, i < policy.attempts → Brings policy reference (replies i) c →
    (∀ j < i, Misses policy reference (replies j)) →
    t.calls = polling policy username 0 (i + 1)
  /-- Without one all look-ups are made. -/
  calls_of_misses : (∀ i < policy.attempts, Misses policy reference (replies i)) →
    t.calls = polling policy username 0 policy.attempts
  /-- The look-ups are made over the channels in turn, one after the other. -/
  look_ups : ∃ count, t.calls.filter (· ≠ pauseCall policy) =
    (List.range count).map (lookUpCall username) ∧
      t.calls.count (pauseCall policy) = count - 1
  /-- What is returned as a code is one. -/
  is_code : ∀ {code}, a = .code code → code ≠ "" ∧ code ≠ noCode

/-- A code that a fresh reply brings is one. -/
theorem Brings.is_code {reply : Reply} {c : IssuedCode} (h : Brings policy reference reply c) :
    c.code ≠ "" ∧ c.code ≠ noCode := by
  have fresh := h.2
  simp only [IssuedCode.isFresh, IssuedCode.isCode, Bool.and_eq_true, decide_eq_true_eq] at fresh
  exact fresh.1

/-- **An attended acquisition polls** as its replies have it. -/
theorem polls_of_yields {t : Transcript} {a : Acquisition}
    (yields : Yields (acquire policy username reference) t a) (attended : Attended replies t) :
    Polls policy username reference replies t a := by
  obtain ⟨count, calls_eq, decided⟩ := (seeks_of_yields yields).decided attended
  constructor
  case returns => cases decided <;> exact Acquisition.noConfusion
  case code_iff =>
    intro code
    constructor
    · rintro rfl
      cases decided with
      | found in_time brings first => exact ⟨_, in_time, _, brings, first, rfl⟩
    · rintro ⟨i, in_time, c, brings, first, rfl⟩
      exact (decided.eq_of_brings in_time brings first).2
  case none_iff =>
    constructor
    · rintro rfl
      cases decided with
      | none missed => exact missed
    · intro missed
      exact (decided.eq_of_misses missed).2
  case calls_of_brings =>
    intro i c in_time brings first
    rw [calls_eq, (decided.eq_of_brings in_time brings first).1]
  case calls_of_misses =>
    intro missed
    rw [calls_eq, (decided.eq_of_misses missed).1]
  case look_ups =>
    refine ⟨count, ?_, ?_⟩
    · rw [calls_eq, filter_polling, List.range_eq_range']
    · rw [calls_eq, count_pauseCall_polling]
  case is_code =>
    rintro code rfl
    cases decided with
    | found in_time brings first => exact brings.is_code

/-- **Acquisitions poll**: every sequence of replies leads through one, and every one that such
replies lead through calls and returns what they have it. -/
theorem acquire_polls (policy : Policy) (username : String) (reference : Instant)
    (replies : ℕ → Reply) :
    (∃ t a, Yields (acquire policy username reference) t a ∧ Attended replies t) ∧
      ∀ {t a}, Yields (acquire policy username reference) t a → Attended replies t →
        Polls policy username reference replies t a := by
  refine ⟨?_, polls_of_yields⟩
  obtain ⟨t, a, seeks, attended⟩ :=
    exists_seeks policy username reference replies policy.attempts 0
  exact ⟨t, a, seeks.yields, attended⟩

end Passcode

end Playback
