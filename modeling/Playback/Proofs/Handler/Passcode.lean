import Playback.Proofs.Handler.Contract
import Playback.Proofs.Passcode.Acquisition

/-!
# Passcode steps

The way of a passcode step from its control to the last field of the code.

* `codeFills` — the fields of a code, with the character that each is given;
* `Typed` — **how the typing of a code goes**: to the end, to a field that fails, or to a
  cancellation;
* `PasscodeCourse`, `course_of_yields` — **the course of a passcode step**: nothing shows of it
  before its control is clicked, and then the time is read, a code is looked up, and typed.
-/

namespace Playback

open Routine Attempt

/-! ## Requests that do not show -/

/-- A request that is no deed, whatever its answer. -/
def Request.IsQuiet (q : Request) : Prop := ∀ a, Answered.deed? ⟨q, a⟩ = none

theorem Request.isQuiet_clock : IsQuiet .clock := fun _ => rfl

theorem Request.isQuiet_report (e : ProgressEvent) : IsQuiet (.tell (.progress e)) := fun _ => rfl

theorem Request.isQuiet_screenshot : IsQuiet (.shielded .screenshot) := fun _ => rfl

theorem Request.isQuiet_loadState (state : LoadState) (timeout : Nat) :
    IsQuiet (.guarded (.loadState state timeout)) := by
  intro a
  cases a <;> rfl

theorem Request.isQuiet_waitVisible (query : String) (timeout : Nat) :
    IsQuiet (.guarded (.waitVisible query timeout)) := by
  intro a
  cases a <;> rfl

/-- Quiet requests are no deeds. -/
theorem Transcript.Within.deeds_eq_nil {t : Transcript} (h : t.Within Request.IsQuiet) :
    t.deeds = [] :=
  List.filterMap_eq_nil_iff.2 fun x mem => h x mem x.answer

namespace Attempt

variable {α β : Type} {t : Transcript}

/-- An attempt that does not show breaks off, or another goes on with its result. -/
theorem yields_bind_of_quiet {x : Attempt α} {f : α → Attempt β} {r : Except StepError β}
    (quiet : Keeps Request.IsQuiet x) (h : Yields (x >>= f).run t r) :
    (t.deeds = [] ∧ ∃ e, r = .error e) ∨
      ∃ u a v, t = u ++ v ∧ u.deeds = [] ∧ Yields x.run u (.ok a) ∧ Yields (f a).run v r := by
  rcases yields_run_bind.1 h with ⟨e, h₁, rfl⟩ | ⟨u, a, v, rfl, h₁, h₂⟩
  · exact .inl ⟨(quiet.within h₁).deeds_eq_nil, e, rfl⟩
  · exact .inr ⟨u, a, v, rfl, (quiet.within h₁).deeds_eq_nil, h₁, h₂⟩

/-- To end a step as failed does not show. -/
theorem yields_fail {step : StepRecord} {action : String} {started : Nat} {o : ActionOutcome}
    {r : Except StepError ActionOutcome} (h : Yields (fail step action started o).run t r) :
    t.deeds = [] ∧ r = .ok o := by
  have quiet := keeps_fail Request.isQuiet_screenshot Request.isQuiet_clock
    (fun e _ => Request.isQuiet_report e) step action started o
  exact ⟨(quiet.within h).deeds_eq_nil, eq_ok_of_yields_fail h⟩

/-- Nor does it show that it is completed. -/
theorem yields_complete {step : StepRecord} {action : String} {started : Nat}
    {picture : Option String} {details : Option Json} {r : Except StepError ActionOutcome}
    (h : Yields (complete step action started picture details).run t r) :
    t.deeds = [] ∧ r = .ok .completed := by
  have quiet : Keeps Request.IsQuiet (complete step action started picture details) :=
    keeps_complete Request.isQuiet_clock fun e _ _ => Request.isQuiet_report e
  exact ⟨(quiet.within h).deeds_eq_nil, eq_ok_of_yields_complete h⟩

end Attempt

/-! ## The typing of a code -/

/-- **The fields of a code**, from a position on, with the character that each is given. -/
def codeFills (base : String) (code : List Char) (position : Nat) : List (String × String) :=
  (code.zipIdx position).map fun x => (digitField base x.2, String.singleton x.1)

theorem codeFills_cons (base : String) (c : Char) (cs : List Char) (position : Nat) :
    codeFills base (c :: cs) position =
      (digitField base position, String.singleton c) :: codeFills base cs (position + 1) := rfl

/-- A field is filled, with success or without. -/
def Deed.fill (succeeds : Bool) (x : String × String) : Deed := .fills x.1 x.2 succeeds

/-- **How the typing of a code goes**, with what `enterDigits` comes to. -/
inductive Typed (all : List (String × String)) :
    List Deed → Except StepError (Option String) → Prop where
  /-- All fields are filled. -/
  | whole : Typed all (all.map (.fill true)) (.ok none)
  /-- A field cannot be filled. -/
  | failed (before : List (String × String)) {after : List (String × String)}
      {x : String × String} {message : String}
      (eq : all = before ++ x :: after) :
      Typed all (before.map (.fill true) ++ [.fill false x]) (.ok (some message))
  /-- The run is cancelled before a field is filled. -/
  | refused (before : List (String × String)) {after : List (String × String)}
      {x : String × String} (eq : all = before ++ x :: after) :
      Typed all (before.map (.fill true)) (.error .cancelled)
  /-- The run is cancelled while a field is filled. -/
  | interrupted (before : List (String × String)) {after : List (String × String)}
      {x : String × String} (eq : all = before ++ x :: after) :
      Typed all (before.map (.fill true) ++ [.fill false x]) (.error .cancelled)

/-- After a field that is filled the typing goes on. -/
theorem Typed.cons {x : String × String} {all : List (String × String)} {deeds : List Deed}
    {r : Except StepError (Option String)} (h : Typed all deeds r) :
    Typed (x :: all) (.fill true x :: deeds) r := by
  cases h with
  | whole => exact .whole
  | failed before eq => exact .failed (x :: before) (congrArg (x :: ·) eq)
  | refused before eq => exact .refused (x :: before) (congrArg (x :: ·) eq)
  | interrupted before eq => exact .interrupted (x :: before) (congrArg (x :: ·) eq)

/-- **The characters of a code are typed** into their fields, one after the other. -/
theorem typed_of_yields_enterDigits {base : String} {cs : List Char} {position : Nat}
    {t : Transcript} {r : Except StepError (Option String)}
    (h : Yields (enterDigits base cs position).run t r) :
    Typed (codeFills base cs position) t.deeds r := by
  induction cs generalizing position t with
  | nil =>
    obtain ⟨rfl, rfl⟩ := yields_run_pure.1 h
    exact .whole
  | cons c cs ih =>
    rw [enterDigits] at h
    rw [codeFills_cons]
    rcases yields_guard_bind h with ⟨rfl | rfl, rfl⟩ | ⟨answer, u, rfl, hu⟩
    -- a fill that is refused is not made, but one that is interrupted shows
    · exact .refused [] rfl
    · exact .interrupted [] rfl
    · cases answer with
      | ok _ => exact (ih hu).cons
      | error e =>
        obtain ⟨rfl, rfl⟩ := yields_run_pure.1 hu
        exact .failed [] rfl

/-! ## The course of a passcode step -/

/-- What a step comes to when its typing comes to something. -/
def resultOfTyping : Except StepError (Option String) → Except StepError ActionOutcome
  | .ok none => .ok .completed
  | .ok (some message) => .ok (.failed message)
  | .error e => .error e

/-- **The deeds of a passcode step after its click**, measured against an instant, with what the
step comes to. -/
inductive AfterClick (ctx : StepContext) (step : StepRecord) (locator : String)
    (reference : Instant) : List Deed → Except StepError ActionOutcome → Prop where
  /-- There is nobody to look a code up for. -/
  | nobody {error : String} (user : step.username? ctx.data = none) :
      AfterClick ctx step locator reference [] (.ok (.failed error))
  /-- No look-up offers a fresh code. -/
  | fruitless {username error : String} {deeds : List Deed}
      (user : step.username? ctx.data = some username)
      (stale : ∀ d ∈ deeds, Passcode.IsStale (.ofConfig ctx.config.passcode) username reference d)
      (length_eq : deeds.length = max ctx.config.passcode.acquisitionRetries.toNat 1 *
        ctx.config.passcode.attempts.toNat) :
      AfterClick ctx step locator reference deeds (.ok (.failed error))
  /-- The run is cancelled before a look-up offers a fresh code. -/
  | givenUp {username : String} {deeds : List Deed}
      (user : step.username? ctx.data = some username)
      (stale : ∀ d ∈ deeds, Passcode.IsStale (.ofConfig ctx.config.passcode) username reference d) :
      AfterClick ctx step locator reference deeds (.error .cancelled)
  /-- A fresh code is offered and typed. -/
  | typed {username : String} {channel : Channel} {c : IssuedCode} {before typing : List Deed}
      {ending : Except StepError (Option String)}
      (user : step.username? ctx.data = some username)
      (stale : ∀ d ∈ before, Passcode.IsStale (.ofConfig ctx.config.passcode) username reference d)
      (fresh : c.isFresh reference ctx.config.passcode.freshnessWindowMs = true)
      (typed : Typed (codeFills (digitFieldBase locator) c.code.toList 0) typing ending) :
      AfterClick ctx step locator reference (before ++ .looksUp channel username (some c) :: typing)
        (resultOfTyping ending)

/-- **The transcripts of a passcode step.** -/
inductive PasscodeCourse (ctx : StepContext) (step : StepRecord) :
    Transcript → Except StepError ActionOutcome → Prop where
  /-- Its control was not clicked with success. -/
  | unclicked {t : Transcript} {r : Except StepError ActionOutcome}
      (missed : ∀ d ∈ t.deeds, ∃ query, d = .clicks query false) (broken : r ≠ .ok .completed) :
      PasscodeCourse ctx step t r
  /-- Its control, which is its first `id` selector, was clicked. -/
  | clicked (before : Transcript) {after : Transcript} {r : Except StepError ActionOutcome}
      {control : Selector} {query : String} {reference : Instant}
      (control_eq : step.firstOfKind? .id = some control)
      (query_eq : control.query? = some query) (idle : before.deeds = [])
      (rest : AfterClick ctx step control.locator reference after.deeds r) :
      PasscodeCourse ctx step
        (before ++ ⟨.guarded (.click query), .answered (.ok ())⟩ :: ⟨.now, reference⟩ :: after) r

namespace PasscodeCourse

variable {ctx : StepContext} {step : StepRecord} {t u : Transcript}
  {r : Except StepError ActionOutcome}

/-- A step of which nothing shows clicked nothing. -/
theorem of_idle (idle : t.deeds = []) (broken : r ≠ .ok .completed) : PasscodeCourse ctx step t r :=
  .unclicked (by simp [idle]) broken

/-- What does not show may come before. -/
theorem append (idle : u.deeds = []) (h : PasscodeCourse ctx step t r) :
    PasscodeCourse ctx step (u ++ t) r := by
  cases h with
  | unclicked missed broken => exact .unclicked (by simpa [idle] using missed) broken
  | clicked before control_eq query_eq idle' rest =>
    rw [← List.append_assoc]
    exact .clicked (u ++ before) control_eq query_eq (by simp [idle, idle']) rest

end PasscodeCourse

/-- **A code is looked up and typed** after the click. -/
theorem afterClick_of_yields_enterCodeOf {ctx : StepContext} {step : StepRecord} {started : Nat}
    {locator username : String} {reference : Instant} {t : Transcript}
    {r : Except StepError ActionOutcome} (user : step.username? ctx.data = some username)
    (h : Yields (enterCodeOf ctx step started locator username reference).run t r) :
    AfterClick ctx step locator reference t.deeds r := by
  rcases yields_run_bind.1 h with ⟨e, h₁, rfl⟩ | ⟨t₁, code?, t₂, rfl, h₁, h₂⟩
  · obtain ⟨a, eq, searched⟩ := Passcode.searched_of_yields_acquireWithin h₁
    generalize t.deeds = deeds at searched ⊢
    cases searched with
    | interrupted stale =>
      rw [Except.error.inj eq]
      exact .givenUp user stale
    | found before stale fresh => exact nomatch eq
    | none stale length_eq => exact nomatch eq
  · obtain ⟨a, eq, searched⟩ := Passcode.searched_of_yields_acquireWithin h₁
    rw [Transcript.deeds_append]
    generalize t₁.deeds = deeds at searched ⊢
    cases searched with
    | interrupted stale => exact nomatch eq
    | none stale length_eq =>
      obtain rfl := Except.ok.inj eq
      obtain ⟨idle, rfl⟩ := yields_fail h₂
      rw [idle, List.append_nil]
      exact .fruitless user stale length_eq
    | @found before channel c stale fresh =>
      obtain rfl := Except.ok.inj eq
      rw [List.append_assoc]
      rcases yields_run_bind.1 h₂ with ⟨e, h₃, rfl⟩ | ⟨t₃, failure?, t₄, rfl, h₃, h₄⟩
      · exact .typed user stale fresh (typed_of_yields_enterDigits h₃)
      · have typed := typed_of_yields_enterDigits h₃
        have ended : t₄.deeds = [] ∧ r = resultOfTyping (.ok failure?) := by
          cases failure? with
          | none => exact yields_complete h₄
          | some message => exact yields_fail h₄
        obtain ⟨idle, rfl⟩ := ended
        rw [Transcript.deeds_append, idle, List.append_nil]
        exact .typed user stale fresh typed

/-- **A passcode step has no other transcripts.** -/
theorem course_of_yields {ctx : StepContext} {step : StepRecord} {t : Transcript}
    {r : Except StepError ActionOutcome} (h : Yields (Handler.passcode ctx step).run t r) :
    PasscodeCourse ctx step t r := by
  -- part by part; what comes before the click does not show
  have begins := keeps_start Request.isQuiet_clock (fun e _ => Request.isQuiet_report e) step
  rcases yields_bind_of_quiet begins h with
    ⟨idle, e, rfl⟩ | ⟨t₁, started, t₂, rfl, idle, -, h₂⟩
  · exact .of_idle idle nofun
  refine .append idle ?_
  rcases yields_bind_of_quiet (keeps_settle Request.isQuiet_loadState ctx.config) h₂ with
    ⟨idle, e, rfl⟩ | ⟨t₃, _, t₄, rfl, idle, -, h₄⟩
  · exact .of_idle idle nofun
  refine .append idle ?_
  cases control_eq : step.firstOfKind? .id with
  | none =>
    simp only [control_eq] at h₄
    obtain ⟨idle, rfl⟩ := yields_fail h₄
    exact .of_idle idle nofun
  | some control =>
    simp only [control_eq] at h₄
    rcases yields_bind_of_quiet (keeps_resolveWithin Request.isQuiet_waitVisible ctx.config
      ctx.config.timeouts.passcodeMs [control]) h₄ with
      ⟨idle, e, rfl⟩ | ⟨t₅, resolution, t₆, rfl, idle, h₅, h₆⟩
    · exact .of_idle idle nofun
    refine .append idle ?_
    cases resolution with
    | notFound attempts =>
      obtain ⟨idle, rfl⟩ := yields_fail h₆
      exact .of_idle idle nofun
    | found found =>
      obtain ⟨mem, query_eq⟩ : found.selector ∈ [control] ∧
          found.selector.query? = some found.query := by
        cases searched_of_yields h₅ with
        | found reached query_eq => exact ⟨reached.mem, query_eq⟩
      rw [List.mem_singleton.1 mem] at query_eq
      rcases yields_guard_bind h₆ with ⟨rfl | rfl, rfl⟩ | ⟨answer, t₇, rfl, h₇⟩
      · exact .of_idle rfl nofun
      · exact .unclicked (List.forall_mem_singleton.2 ⟨found.query, rfl⟩) nofun
      rcases yields_orFault_bind h₇ with ⟨e, rfl, rfl, rfl⟩ | ⟨_, rfl, h₈⟩
      · exact .unclicked (List.forall_mem_singleton.2 ⟨found.query, rfl⟩) nofun
      · obtain ⟨reference, t₈, rfl, h₉⟩ := yields_run_request_bind.1 h₈
        refine .clicked [] control_eq query_eq rfl ?_
        cases user : step.username? ctx.data with
        | none =>
          simp only [user] at h₉
          obtain ⟨idle, rfl⟩ := yields_fail h₉
          rw [idle]
          exact .nobody user
        | some username =>
          simp only [user] at h₉
          exact afterClick_of_yields_enterCodeOf user h₉

end Playback
