import Playback.Proofs.Handler.Contract

/-!
# Touches

A step touches an element when it acts on it, or looks at it. What a step plans to do to an element
is done touch by touch, and each of them only if the one before it succeeded.

* `Call.isTouch`, `Transcript.touches` — **the calls on elements**, each with its success;
* `Carried` — planned touches are carried out one after the other, until one fails;
* `Action.touches` — **what a step does to its element**;
* `Request.IsAside`, `Transcript.IsIdle` — requests that touch nothing;
* `Attempt.Performs` — **attempts that carry out planned touches**, `performs_guard` to
  `performs_examine` with one touch before the others;
* `Attempt.Examined` — how a look at an element goes.
-/

namespace Playback

open Routine Attempt

/-! ## Touches -/

namespace Call

/-- **A call on an element**: it acts on it, or looks at it. -/
def isTouch : Call → Bool
  | click _ => true
  | fill .. => true
  | press .. => true
  | text _ => true
  | state _ => true
  | _ => false

/-- Whether a call on an element is answered without a fault. -/
def succeeds : (c : Call) → c.Answer → Bool
  | click _, answer => answer.isOk
  | fill .., answer => answer.isOk
  | press .., answer => answer.isOk
  | text _, answer => answer.isOk
  | state _, answer => answer.isOk
  | _, _ => true

end Call

namespace Answered

/-- Whether the call of a request is answered without a fault. -/
def succeeds : Answered → Bool
  | ⟨.shielded c, answer⟩ => c.succeeds answer
  | ⟨.guarded c, .answered answer⟩ => c.succeeds answer
  | ⟨.inside c, some answer⟩ => c.succeeds answer
  | _ => false

/-- **The call on an element that a request starts**, with its success. -/
def touch? (x : Answered) : Option (Call × Bool) :=
  (x.started?.filter Call.isTouch).map fun c => (c, x.succeeds)

end Answered

namespace Transcript

/-- **The calls on elements** that are started, with their successes. -/
def touches (t : Transcript) : List (Call × Bool) := t.filterMap Answered.touch?

@[simp] theorem touches_nil : touches [] = [] := rfl

@[simp] theorem touches_cons (x : Answered) (t : Transcript) :
    touches (x :: t) = x.touch?.toList ++ touches t := by
  rw [touches, List.filterMap_cons]
  cases x.touch? <;> rfl

@[simp] theorem touches_append (t u : Transcript) : touches (t ++ u) = touches t ++ touches u :=
  List.filterMap_append

/-- **The touches are among the calls.** -/
theorem map_touches (t : Transcript) : t.touches.map (·.1) = t.calls.filter Call.isTouch := by
  induction t with
  | nil => rfl
  | cons x t ih =>
    rw [touches_cons, calls_cons, List.map_append, List.filter_append, ih, Answered.touch?]
    cases x.started? with
    | none => rfl
    | some c =>
      by_cases touch : c.isTouch = true
      · rw [Option.filter_some_pos touch]
        simp [touch]
      · rw [Option.filter_some_neg (by simpa using touch)]
        simp [touch]

end Transcript

/-- **Planned touches are carried out** one after the other, until one fails, or no more is made. -/
inductive Carried : List Call → List (Call × Bool) → Prop where
  | stopped (planned : List Call) : Carried planned []
  | failed (c : Call) (planned : List Call) : Carried (c :: planned) [(c, false)]
  | done (c : Call) {planned : List Call} {touches : List (Call × Bool)} :
      Carried planned touches → Carried (c :: planned) ((c, true) :: touches)

/-- What is carried out is the beginning of what was planned, and all of it but the last succeeded. -/
theorem Carried.spec {planned : List Call} {touches : List (Call × Bool)}
    (h : Carried planned touches) :
    touches.map (·.1) <+: planned ∧ ∀ touch ∈ touches.dropLast, touch.2 = true := by
  induction h with
  | stopped planned => exact ⟨List.nil_prefix, fun _ mem => nomatch mem⟩
  | failed c planned => exact ⟨⟨planned, rfl⟩, fun _ mem => nomatch mem⟩
  | @done c planned touches _ ih =>
    refine ⟨List.cons_prefix_cons.2 ⟨rfl, ih.1⟩, fun touch mem => ?_⟩
    cases touches with
    | nil => exact nomatch mem
    | cons next touches =>
      rcases List.mem_cons.1 mem with rfl | mem
      · rfl
      · exact ih.2 touch mem

/-- Of one planned touch, something is made or nothing. -/
theorem Carried.of_singleton {c : Call} {touches : List (Call × Bool)} (h : Carried [c] touches)
    (some : touches ≠ []) : touches.map (·.1) = [c] := by
  cases h with
  | stopped => exact absurd rfl some
  | failed => rfl
  | done _ others =>
    cases others
    rfl

/-! ## Plans -/

/-- The call by which an assertion looks at an element. -/
def AssertKind.look (kind : AssertKind) (query : String) : Call :=
  if kind.comparesText then .text query else .state query

/-- **What a step of an action does to its element**, if nothing fails. -/
def Action.touches (a : Action) (step : StepRecord) (query : String) : List Call :=
  match a with
  | click => [.click query]
  | change => (step.input?.map (Call.fill query)).toList
  | changeWithEnter => (step.input?.map (Call.fill query)).toList ++ [.press query "Enter"]
  | assert =>
    ((AssertKind.ofName? (step.typeAssert.getD "")).map fun kind => kind.look query).toList
  | _ => []

/-- The actions of steps that have an element. -/
def Action.aimed : List Action := [click, change, changeWithEnter, assert]

/-! ## Requests -/

/-- A request whose call, if it has one, is no touch. -/
def Request.IsTouchless (q : Request) : Prop := ∀ c, q.call? = some c → c.isTouch = false

/-- A request that touches no element and reports no completion. -/
structure Request.IsIdle (q : Request) : Prop where
  touchless : q.IsTouchless
  incomplete : ∀ e, q = .tell (.progress e) → e.status ≠ .completed

/-- A request that does not wait for any candidate, either. -/
def Request.IsAside (q : Request) : Prop := q.IsIdle ∧ q.SeeksNone

namespace Request

/-- A reading of the clock is of no concern. -/
theorem isAside_clock : IsAside .clock := ⟨⟨nofun, nofun⟩, nofun⟩

/-- Nor is a picture. -/
theorem isAside_screenshot : IsAside (.shielded .screenshot) := by
  refine ⟨⟨fun c same => ?_, nofun⟩, nofun⟩
  obtain rfl := Option.some.inj same
  rfl

/-- Nor is a report, if it is not of a completion. -/
theorem isAside_report {e : ProgressEvent} (incomplete : e.status ≠ .completed) :
    IsAside (.tell (.progress e)) := by
  refine ⟨⟨nofun, fun e' same => ?_⟩, nofun⟩
  obtain rfl := StreamMessage.progress.inj (Request.tell.inj same)
  exact incomplete

/-- Nor is a wait for a phase of the page. -/
theorem isAside_loadState (state : LoadState) (timeout : Nat) :
    IsAside (.guarded (.loadState state timeout)) := by
  refine ⟨⟨fun c same => ?_, nofun⟩, nofun⟩
  obtain rfl := Option.some.inj same
  rfl

end Request

namespace Answered

variable {x : Answered}

/-- The call that a request starts is the one it is about. -/
theorem call?_of_started? {c : Call} (started : x.started? = some c) : x.request.call? = some c := by
  obtain ⟨request, answer⟩ := x
  cases request with
  | guarded c => cases answer <;> simp_all [started?, Request.call?]
  | _ => simp_all [started?, Request.call?]

/-- A call that is no touch is none. -/
theorem touch?_eq_none (touchless : x.request.IsTouchless) : x.touch? = none := by
  rw [touch?]
  cases started : x.started? with
  | none => rfl
  | some c =>
    rw [Option.filter_some_neg (touchless c (call?_of_started? started))]
    rfl

end Answered

namespace Transcript

variable {t u : Transcript}

/-- Requests without touches touch nothing. -/
theorem Within.touches_eq_nil (h : t.Within Request.IsTouchless) : t.touches = [] :=
  List.filterMap_eq_nil_iff.2 fun x mem => Answered.touch?_eq_none (h x mem)

/-- **No element is touched, and no completion reported.** -/
structure IsIdle (t : Transcript) : Prop where
  touches_eq : t.touches = []
  incomplete : ∀ e ∈ t.events, e.status ≠ .completed

/-- Idle parts make an idle whole. -/
theorem IsIdle.append (h : t.IsIdle) (h' : u.IsIdle) : IsIdle (t ++ u) where
  touches_eq := by rw [touches_append, h.touches_eq, h'.touches_eq, List.nil_append]
  incomplete := by
    rw [events_append]
    exact List.forall_mem_append.2 ⟨h.incomplete, h'.incomplete⟩

/-- The first part of an idle whole is idle. -/
theorem IsIdle.left (h : IsIdle (t ++ u)) : t.IsIdle where
  touches_eq := by
    have none := h.touches_eq
    rw [touches_append, List.append_eq_nil_iff] at none
    exact none.1
  incomplete e mem := h.incomplete e (by rw [events_append]; exact List.mem_append_left _ mem)

/-- What is reported was told. -/
theorem exists_of_mem_events {e : ProgressEvent} (mem : e ∈ t.events) :
    ∃ x ∈ t, x.request = .tell (.progress e) := by
  obtain ⟨x, inside, reported⟩ := List.mem_filterMap.1 mem
  refine ⟨x, inside, ?_⟩
  obtain ⟨request, answer⟩ := x
  cases request with
  | tell m =>
    cases m with
    | progress e' => rw [Option.some.inj reported]
    | session id testCase => exact nomatch reported
    | summary r => exact nomatch reported
  | _ => exact nomatch reported

/-- Idle requests leave everything idle. -/
theorem Within.idle (h : t.Within Request.IsIdle) : t.IsIdle where
  touches_eq := Within.touches_eq_nil (h.mono fun _ idle => idle.touchless)
  incomplete e mem := by
    obtain ⟨x, inside, told⟩ := exists_of_mem_events mem
    exact (h x inside).incomplete e told

end Transcript

/-! ## Performing touches -/

namespace Attempt

variable {α : Type} {planned : List Call}

/-- **An attempt that carries out planned touches**, and touches nothing else. -/
def Performs (planned : List Call) (x : Attempt ActionOutcome) : Prop :=
  ∀ t r, Yields x.run t r → Carried planned t.touches

/-- An attempt without touches stops before the first. -/
theorem Keeps.performs {x : Attempt ActionOutcome} (h : Keeps Request.IsTouchless x) :
    Performs planned x := by
  intro t r hy
  rw [(h.within hy).touches_eq_nil]
  exact .stopped planned

/-- What touches nothing may come before. -/
theorem performs_bind {x : Attempt α} {f : α → Attempt ActionOutcome}
    (hx : Keeps Request.IsTouchless x) (hf : ∀ a, Performs planned (f a)) :
    Performs planned (x >>= f) := by
  intro t r h
  rcases yields_run_bind.1 h with ⟨e, h₁, rfl⟩ | ⟨t₁, a, t₂, rfl, h₁, h₂⟩
  · rw [(hx.within h₁).touches_eq_nil]
    exact .stopped planned
  · rw [Transcript.touches_append, (hx.within h₁).touches_eq_nil]
    exact hf a t₂ r h₂

/-- **One touch comes before the others**: they follow only if it succeeds. -/
theorem performs_guard {c : Call} (touch : c.isTouch = true)
    {f : c.Answer → Attempt ActionOutcome}
    (hf : ∀ answer, Performs (if c.succeeds answer then planned else []) (f answer)) :
    Performs (c :: planned) (guard c >>= f) := by
  have touched : ∀ ending, Answered.touch? ⟨.guarded c, ending⟩ = match ending with
      | .refused => none
      | .interrupted => some (c, false)
      | .answered answer => some (c, c.succeeds answer) := by
    intro ending
    cases ending <;> simp [Answered.touch?, Answered.started?, Answered.succeeds, touch]
  intro t r h
  rcases yields_guard_bind h with ⟨rfl | rfl, -⟩ | ⟨answer, u, rfl, hu⟩
  · simp only [Transcript.touches_cons, touched]
    exact .stopped _
  · simp only [Transcript.touches_cons, touched]
    exact .failed c planned
  · have others := hf answer u r hu
    simp only [Transcript.touches_cons, touched]
    cases succeeded : c.succeeds answer with
    | true =>
      rw [succeeded, if_pos rfl] at others
      exact .done c others
    | false =>
      rw [succeeded, if_neg Bool.false_ne_true] at others
      cases touches : Transcript.touches u with
      | nil => exact .failed c planned
      | cons next touches =>
        rw [touches] at others
        exact nomatch others

/-- A fault of the page keeps the others from being made. -/
theorem performs_orFault {x : Except PageFault α} {f : α → Attempt ActionOutcome}
    (hf : ∀ a, Performs planned (f a)) :
    Performs (if x.isOk then planned else []) (orFault x >>= f) := by
  intro t r h
  rcases yields_orFault_bind h with ⟨e, rfl, rfl, rfl⟩ | ⟨a, rfl, rest⟩
  · exact .stopped _
  · exact hf a t r rest

/-- **A text is filled in** before anything else, if there is one. -/
theorem performs_typeInto {query : String} {input : Option String}
    {f : String → Attempt ActionOutcome} (hf : ∀ action, Performs planned (f action)) :
    Performs ((input.map (Call.fill query)).toList ++ planned) (typeInto query input >>= f) := by
  cases input with
  | none => exact performs_bind (keeps_pure _) hf
  | some value =>
    rw [typeInto, bind_assoc]
    refine performs_guard rfl fun answer => ?_
    rw [bind_assoc]
    exact performs_orFault fun _ => performs_bind (keeps_pure _) hf

/-- **Enter is pressed** before anything else, if it is to be. -/
theorem performs_submitted {query action : String} {submit : Bool}
    {f : String → Attempt ActionOutcome} (hf : ∀ action, Performs planned (f action)) :
    Performs ((if submit then [.press query "Enter"] else []) ++ planned)
      (submitted query submit action >>= f) := by
  cases submit with
  | false => exact performs_bind (keeps_pure _) hf
  | true =>
    rw [if_pos rfl, submitted, if_pos rfl, bind_assoc]
    refine performs_guard rfl fun answer => ?_
    rw [bind_assoc]
    exact performs_orFault fun _ => performs_bind (keeps_pure _) hf

/-- **How the look at an element goes**: it is cancelled, the page fails, or what is found decides how
to go on. -/
inductive Examined (kind : AssertKind) (query expected : String)
    (f : Json × Option String → Attempt ActionOutcome) :
    Transcript → Except StepError ActionOutcome → Prop where
  | cancelled {t : Transcript} (shows : t.ShowsCancellation) :
      Examined kind query expected f t (.error .cancelled)
  | text {t : Transcript} {r : Except StepError ActionOutcome} {actual : String}
      (compares : kind.comparesText = true)
      (rest : Yields (f (.str actual, kind.textFailure? query expected actual)).run t r) :
      Examined kind query expected f (⟨.guarded (.text query), .answered (.ok actual)⟩ :: t) r
  | textFault {e : PageFault} (compares : kind.comparesText = true) :
      Examined kind query expected f [⟨.guarded (.text query), .answered (.error e)⟩]
        (.error (.page e))
  | state {t : Transcript} {r : Except StepError ActionOutcome} {actual : ElementState}
      (compares : kind.comparesText = false)
      (rest : Yields (f (actual.encode, kind.stateFailure? query actual)).run t r) :
      Examined kind query expected f (⟨.guarded (.state query), .answered (.ok actual)⟩ :: t) r
  | stateFault {e : PageFault} (compares : kind.comparesText = false) :
      Examined kind query expected f [⟨.guarded (.state query), .answered (.error e)⟩]
        (.error (.page e))

/-- **An element is looked at in no other way.** -/
theorem examined_of_yields {kind : AssertKind} {query expected : String}
    {f : Json × Option String → Attempt ActionOutcome} {t : Transcript}
    {r : Except StepError ActionOutcome} (h : Yields (examine kind query expected >>= f).run t r) :
    Examined kind query expected f t r := by
  rw [examine] at h
  by_cases compares : kind.comparesText = true
  · rw [if_pos compares, bind_assoc] at h
    rcases yields_guard_bind h with ⟨rfl | rfl, rfl⟩ | ⟨answer, u, rfl, hu⟩
    · exact .cancelled ⟨_, List.mem_cons_self, .inl rfl⟩
    · exact .cancelled ⟨_, List.mem_cons_self, .inr rfl⟩
    · rw [bind_assoc] at hu
      rcases yields_orFault_bind hu with ⟨e, rfl, rfl, rfl⟩ | ⟨actual, rfl, rest⟩
      · exact .textFault compares
      · exact .text compares rest
  · rw [if_neg compares, bind_assoc] at h
    have states : kind.comparesText = false := by simpa using compares
    rcases yields_guard_bind h with ⟨rfl | rfl, rfl⟩ | ⟨answer, u, rfl, hu⟩
    · exact .cancelled ⟨_, List.mem_cons_self, .inl rfl⟩
    · exact .cancelled ⟨_, List.mem_cons_self, .inr rfl⟩
    · rw [bind_assoc] at hu
      rcases yields_orFault_bind hu with ⟨e, rfl, rfl, rfl⟩ | ⟨actual, rfl, rest⟩
      · exact .stateFault states
      · exact .state states rest

/-- Unless it is cancelled, the look is made. -/
theorem Examined.touches_ne_nil {kind : AssertKind} {query expected : String}
    {f : Json × Option String → Attempt ActionOutcome} {t : Transcript}
    {r : Except StepError ActionOutcome} (h : Examined kind query expected f t r)
    (calm : ¬ t.ShowsCancellation) : t.touches ≠ [] := by
  cases h with
  | cancelled shows => exact absurd shows calm
  | text => simp [Answered.touch?, Answered.started?, Call.isTouch]
  | textFault => simp [Answered.touch?, Answered.started?, Call.isTouch]
  | state => simp [Answered.touch?, Answered.started?, Call.isTouch]
  | stateFault => simp [Answered.touch?, Answered.started?, Call.isTouch]

/-- **The element is looked at** before anything else. -/
theorem performs_examine {kind : AssertKind} {query expected : String}
    {f : Json × Option String → Attempt ActionOutcome} (hf : ∀ finding, Performs planned (f finding)) :
    Performs (kind.look query :: planned) (examine kind query expected >>= f) := by
  rw [examine, AssertKind.look]
  split
  · rw [bind_assoc]
    refine performs_guard rfl fun answer => ?_
    rw [bind_assoc]
    exact performs_orFault fun _ => performs_bind (keeps_pure _) hf
  · rw [bind_assoc]
    refine performs_guard rfl fun answer => ?_
    rw [bind_assoc]
    exact performs_orFault fun _ => performs_bind (keeps_pure _) hf

end Attempt

end Playback
