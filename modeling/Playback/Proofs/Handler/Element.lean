import Playback.Proofs.Handler.Touch
import Playback.Proofs.Routine.Surroundings

/-!
# The element of a step

Clicks, changes and assertions look for one element, and touch no other.

* `Sought`, `sought_of_yields` — **a step looks for its element** before it goes on;
* `Acts` — what a step does after it has seen its element;
* `ActsOn`, `handler_actsOn` — **clicks, changes and assertions touch only the first candidate
  seen**, each in its one way, and at most once.
-/

namespace Playback

open Routine Attempt

/-! ## The search of a step -/

/-- **How a step goes on from its search**: it is cancelled before the end, or goes on without an
element, or with the first one seen. -/
inductive Sought (selectors : List Selector) (k : Resolution → Attempt ActionOutcome) :
    Transcript → Except StepError ActionOutcome → Prop where
  | cancelled {t : Transcript} (idle : t.IsIdle) (blind : ∀ x ∈ t, ¬ x.Sights)
      (shows : t.ShowsCancellation) : Sought selectors k t (.error .cancelled)
  | missed {before after : Transcript} {r : Except StepError ActionOutcome} {attempts : Nat}
      (idle : before.IsIdle) (calm : ¬ before.ShowsCancellation) (unseen : before.Unseen selectors)
      (rest : Yields (k (.notFound attempts)).run after r) : Sought selectors k (before ++ after) r
  | found {before after : Transcript} {r : Except StepError ActionOutcome} {timeout : Nat}
      {located : Located} (idle : before.IsIdle) (calm : ¬ before.ShowsCancellation)
      (unseen : before.Unseen (selectors.take located.position))
      (selector_eq : selectors[located.position]? = some located.selector)
      (query_eq : located.selector.query? = some located.query)
      (attempts_eq : located.attempts =
        (selectors.take (located.position + 1)).countP Selector.isKnown)
      (rest : Yields (k (.found located)).run after r) :
      Sought selectors k (before ++ ⟨.guarded (.waitVisible located.query timeout),
        .answered (.ok true)⟩ :: after) r

namespace Sought

variable {selectors : List Selector} {k : Resolution → Attempt ActionOutcome} {t u : Transcript}
  {r : Except StepError ActionOutcome}

/-- Requests of no concern may come before. -/
theorem prepend (aside : u.Within Request.IsAside) (quiet : ¬ u.ShowsCancellation)
    (h : Sought selectors k t r) : Sought selectors k (u ++ t) r := by
  have idle : u.IsIdle := Transcript.Within.idle (aside.mono fun _ h => h.1)
  have unseen : u.Unseen [] := Transcript.Within.unseen (aside.mono fun _ h => h.2)
  have still : ∀ {v : Transcript}, ¬ v.ShowsCancellation → ¬ Transcript.ShowsCancellation (u ++ v) := by
    intro v calm
    rw [Transcript.showsCancellation_append, not_or]
    exact ⟨quiet, calm⟩
  cases h with
  | cancelled idle' blind shows =>
    exact .cancelled (idle.append idle') (List.forall_mem_append.2 ⟨unseen.not_sights, blind⟩)
      ((Transcript.showsCancellation_append _ _).2 (.inr shows))
  | missed idle' calm unseen' rest =>
    rw [← List.append_assoc]
    exact .missed (idle.append idle') (still calm) (unseen.append unseen') rest
  | found idle' calm unseen' selector_eq query_eq attempts_eq rest =>
    rw [← List.append_assoc]
    exact .found (idle.append idle') (still calm) (unseen.append unseen') selector_eq query_eq
      attempts_eq rest

end Sought

/-- A search touches no element. -/
theorem Resolves.idle {primary fallback : Nat} {candidates : List Selector} {t : Transcript}
    {result : Except StepError Resolution} (h : Resolves primary fallback candidates t result) :
    t.IsIdle := by
  refine Transcript.Within.idle fun x mem => ?_
  have asked : x.request ∈ t.requests := List.mem_map_of_mem mem
  obtain ⟨c, waited, same⟩ := List.mem_map.1 (h.asked.subset asked)
  obtain ⟨⟨query, i⟩, -, rfl⟩ := List.mem_map.1 waited
  rw [← same]
  refine ⟨fun c same => ?_, nofun⟩
  obtain rfl := Option.some.inj same
  rfl

/-- **After the page has settled, a step goes on from its search.** -/
theorem sought_of_yields {config : EngineConfig} {primaryMs : Nat} {selectors : List Selector}
    {k : Resolution → Attempt ActionOutcome} {t : Transcript} {r : Except StepError ActionOutcome}
    (h : Yields (settle config >>= fun _ => resolveWithin config primaryMs selectors >>= k).run t
      r) : Sought selectors k t r := by
  have settles : Keeps Request.IsAside (settle config) :=
    keeps_settle Request.isAside_loadState config
  rcases yields_run_bind.1 h with ⟨e, h₁, rfl⟩ | ⟨t₁, _, t₂, rfl, h₁, h₂⟩
  · obtain rfl := eq_cancelled_of_settle h₁
    have aside := settles.within h₁
    have unseen := Transcript.Within.unseen (aside.mono fun _ h => h.2)
    exact .cancelled (Transcript.Within.idle (aside.mono fun _ h => h.1)) unseen.not_sights
      ((settles.cancelled_iff h₁).1 rfl)
  refine .prepend (settles.within h₁) (fun shows => nomatch (settles.cancelled_iff h₁).2 shows) ?_
  rcases yields_run_bind.1 h₂ with ⟨e, h₃, rfl⟩ | ⟨t₃, resolution, t₄, rfl, h₃, h₄⟩
  · have resolves := (searched_of_yields h₃).resolves
    obtain rfl := resolves.cancelled e rfl
    refine .cancelled resolves.idle (fun x mem sights => ?_) (resolves.error_iff.1 ⟨_, rfl⟩)
    obtain ⟨located, same⟩ := resolves.found_iff.2 ⟨x, mem, sights⟩
    exact nomatch same
  · have searched := searched_of_yields h₃
    have resolves := searched.resolves
    cases searched with
    | notFound _ missed_all =>
      have calm := not_showsCancellation_of_misses (Answered.exists_misses missed_all)
      exact .missed resolves.idle calm (unseen_of_misses missed_all) h₄
    | @found missed waited located reached query_eq attempts_eq =>
      obtain ⟨selector_eq, counted, -, before⟩ := reached.spec query_eq (.answered (.ok true))
      have calm := not_showsCancellation_of_misses before
      rw [List.append_assoc]
      exact .found resolves.idle.left calm reached.unseen selector_eq query_eq
        (attempts_eq.trans counted) h₄

/-! ## What a step does to its element -/

/-- Requests with which a click or a change follows up its picture: they wait for no candidate, take
no other picture, and report nothing but a completion with some picture and details. -/
structure Request.FollowsUp (picture : Option String) (details : Json) (q : Request) : Prop where
  seeksNone : q.SeeksNone
  noPicture : q.call? ≠ some .screenshot
  reports : ∀ e, q = .tell (.progress e) → e.screenshot = picture ∧ e.metadata = some details

/-- **What a step does after it has seen its element.** -/
structure Acts (a : Action) (step : StepRecord) (located : Located) (t : Transcript) : Prop where
  /-- It waits for no other candidate. -/
  seeksNone : t.Unseen []
  /-- It touches only this element, as it is planned. -/
  carried : Carried (a.touches step located.query) t.touches
  /-- An assertion looks at the element exactly once, unless it is cancelled. -/
  looks : a = .assert → ∃ kind, AssertKind.ofName? (step.typeAssert.getD "") = some kind ∧
    (¬ t.ShowsCancellation → t.calls.filter Call.isTouch = [kind.look located.query])
  /-- A click or a change takes a picture first, and no other one; a completion reports it, with the
  candidate and the number of those that were waited for. -/
  pictured : a ≠ .assert → ∃ (shot : Except PageFault (List UInt8)) (rest : Transcript),
    t = ⟨.shielded .screenshot, shot⟩ :: rest ∧ .screenshot ∉ rest.calls ∧
    ∀ e ∈ rest.events, e.screenshot = pictureOf shot ∧
      e.metadata = some (.obj [("attempts", .int located.attempts),
        ("locator", located.selector.encode)])

/-- **What a step does to elements**, along its requests with their answers. -/
inductive ActsOn (a : Action) (step : StepRecord) : Transcript → Prop where
  /-- No candidate is seen, and nothing is touched. -/
  | unseen {t : Transcript} (blind : ∀ x ∈ t, ¬ x.Sights) (idle : t.IsIdle) : ActsOn a step t
  /-- A candidate is seen, the first of all; before that nothing is touched. -/
  | seen {before after : Transcript} {timeout : Nat} {located : Located} (idle : before.IsIdle)
      (unseen : before.Unseen (step.selectors.take located.position))
      (selector_eq : step.selectors[located.position]? = some located.selector)
      (query_eq : located.selector.query? = some located.query)
      (attempts_eq : located.attempts =
        (step.selectors.take (located.position + 1)).countP Selector.isKnown)
      (acts : Acts a step located after) :
      ActsOn a step (before ++ ⟨.guarded (.waitVisible located.query timeout),
        .answered (.ok true)⟩ :: after)

/-- **The calls on elements are the first of those planned**, each made at most once. -/
theorem Acts.calls_prefix {a : Action} {step : StepRecord} {located : Located} {t : Transcript}
    (h : Acts a step located t) : t.calls.filter Call.isTouch <+: a.touches step located.query := by
  rw [← Transcript.map_touches]
  exact h.carried.spec.1

namespace Attempt

variable {P : Request → Prop}

/-- A step is ended as failed by requests of no concern. -/
theorem keeps_fail_aside (step : StepRecord) (action : String) (started : Nat) (o : ActionOutcome) :
    Keeps Request.IsAside (fail step action started o) := by
  refine keeps_bind (keeps_screenshot Request.isAside_screenshot) fun picture => ?_
  refine keeps_bind (keeps_clock Request.isAside_clock) fun finished => ?_
  exact keeps_bind (keeps_emit (Request.isAside_report StepStatus.noConfusion)) fun _ => keeps_pure o

/-- So it is started. -/
theorem within_begins (step : StepRecord) (started : Nat) :
    Transcript.Within Request.IsAside [⟨.clock, started⟩,
      ⟨.tell (.progress (.processing step.indexStep step.label)), ()⟩] :=
  within_started Request.isAside_clock (Request.isAside_report StepStatus.noConfusion)
    (Transcript.within_nil _)

/-- A picture is taken before anything else. -/
theorem yields_screenshot_bind {α : Type} {f : Option String → Attempt α} {t : Transcript}
    {r : Except StepError α} (h : Yields (Attempt.screenshot >>= f).run t r) :
    ∃ shot u, t = ⟨.shielded .screenshot, shot⟩ :: u ∧ Yields (f (pictureOf shot)).run u r := by
  obtain ⟨t₁, taken, t₂, rfl, h₁, h₂⟩ := yields_run_lift_bind.1 h
  obtain ⟨shot, rfl, rfl⟩ := yields_screenshot h₁
  exact ⟨shot, t₂, rfl, h₂⟩

end Attempt

namespace Request

variable {picture : Option String} {details : Json}

/-- A guarded call follows up a picture, if it is neither a wait nor a picture. -/
theorem followsUp_guarded {c : Call} (noWait : ∀ query timeout, c ≠ .waitVisible query timeout)
    (noPicture : c ≠ .screenshot) : FollowsUp picture details (.guarded c) where
  seeksNone query timeout same := noWait query timeout (guarded.inj same)
  noPicture same := noPicture (Option.some.inj same)
  reports := nofun

/-- So does the report of a completion. -/
theorem followsUp_report {e : ProgressEvent} (shown : e.screenshot = picture)
    (told : e.metadata = some details) : FollowsUp picture details (.tell (.progress e)) where
  seeksNone := nofun
  noPicture := nofun
  reports e' same := by
    obtain rfl := StreamMessage.progress.inj (tell.inj same)
    exact ⟨shown, told⟩

/-- A pause is no touch. -/
theorem isTouchless_pause (span : Nat) : IsTouchless (.guarded (.pause span)) := by
  intro c same
  obtain rfl := Option.some.inj same
  rfl

end Request

namespace Attempt

variable {step : StepRecord} {action : String} {started : Nat} {picture : Option String}
  {details : Json}

/-- A completion touches no element. -/
theorem keeps_complete_touchless :
    Keeps Request.IsTouchless (complete step action started picture (some details)) :=
  keeps_complete nofun fun _ _ _ => nofun

/-- It follows up its picture with its details. -/
theorem keeps_complete_followsUp :
    Keeps (Request.FollowsUp picture details)
      (complete step action started picture (some details)) :=
  keeps_complete ⟨nofun, nofun, nofun⟩ fun _ => Request.followsUp_report

end Attempt

/-- **What follows a picture** acts on the element, if it performs what was planned. -/
theorem acts_of_followsUp {a : Action} {step : StepRecord} {located : Located} {t : Transcript}
    {r : Except StepError ActionOutcome} {f : Option String → Attempt ActionOutcome}
    (other : a ≠ .assert) (performs : ∀ picture, Performs (a.touches step located.query) (f picture))
    (keeps : ∀ picture, Keeps (Request.FollowsUp picture located.details) (f picture))
    (h : Yields (Attempt.screenshot >>= f).run t r) : Acts a step located t := by
  obtain ⟨shot, u, rfl, hu⟩ := yields_screenshot_bind h
  have follows := (keeps (pictureOf shot)).within hu
  have seeksNone : Transcript.Within Request.SeeksNone (⟨.shielded .screenshot, shot⟩ :: u) :=
    (Transcript.within_cons _ _ _).2 ⟨nofun, follows.mono fun _ h => h.seeksNone⟩
  refine ⟨seeksNone.unseen, performs _ u r hu, fun same => absurd same other, fun _ =>
    ⟨shot, u, rfl, fun mem => ?_, fun e mem => ?_⟩⟩
  · obtain ⟨x, inside, started⟩ := List.mem_filterMap.1 mem
    exact (follows x inside).noPicture (Answered.call?_of_started? started)
  · obtain ⟨x, inside, told⟩ := Transcript.exists_of_mem_events mem
    exact (follows x inside).reports e told

/-- **A step goes on from its search** to act on its element, if it leaves everything idle where it
has found none. -/
theorem Sought.actsOn {a : Action} {step : StepRecord} {k : Resolution → Attempt ActionOutcome}
    {t : Transcript} {r : Except StepError ActionOutcome} (h : Sought step.selectors k t r)
    (missed : ∀ attempts, Keeps Request.IsAside (k (.notFound attempts)))
    (found : ∀ located t r, Yields (k (.found located)).run t r → Acts a step located t) :
    ActsOn a step t := by
  cases h with
  | cancelled idle blind shows => exact .unseen blind idle
  | missed idle calm unseen rest =>
    have aside := (missed _).within rest
    have after := Transcript.Within.unseen (aside.mono fun _ h => h.2)
    exact .unseen (List.forall_mem_append.2 ⟨unseen.not_sights, after.not_sights⟩)
      (idle.append (Transcript.Within.idle (aside.mono fun _ h => h.1)))
  | found idle calm unseen selector_eq query_eq attempts_eq rest =>
    exact .seen idle unseen selector_eq query_eq attempts_eq (found _ _ _ rest)

/-- Requests of no concern may come before. -/
theorem ActsOn.prepend {a : Action} {step : StepRecord} {t u : Transcript}
    (aside : u.Within Request.IsAside) (h : ActsOn a step t) : ActsOn a step (u ++ t) := by
  have idle : u.IsIdle := Transcript.Within.idle (aside.mono fun _ h => h.1)
  have unseen : u.Unseen [] := Transcript.Within.unseen (aside.mono fun _ h => h.2)
  cases h with
  | unseen blind idle' =>
    exact .unseen (List.forall_mem_append.2 ⟨unseen.not_sights, blind⟩) (idle.append idle')
  | seen idle' unseen' selector_eq query_eq attempts_eq acts =>
    rw [← List.append_assoc]
    exact .seen (idle.append idle') (unseen.append unseen') selector_eq query_eq attempts_eq acts

/-! ## Handlers -/

namespace Handler

variable {ctx : StepContext} {step : StepRecord} {t : Transcript}
  {r : Except StepError ActionOutcome}

/-- A step that is started acts on its element afterwards. -/
theorem actsOn_start {a : Action} {f : Nat → Attempt ActionOutcome}
    (h : Yields (start step >>= f).run t r)
    (hf : ∀ started u, Yields (f started).run u r → ActsOn a step u) : ActsOn a step t := by
  obtain ⟨started, u, rfl, hu⟩ := yields_start_bind h
  exact (hf started u hu).prepend (within_begins step started)

/-- **A click touches its element only.** -/
theorem actsOn_click (h : Yields (click ctx step).run t r) : ActsOn .click step t := by
  refine actsOn_start h fun started u hu => ?_
  refine (sought_of_yields hu).actsOn (fun attempts => keeps_fail_aside step _ _ _) ?_
  intro located v r hv
  refine acts_of_followsUp Action.noConfusion (fun picture => ?_) (fun picture => ?_) hv
  · refine performs_guard rfl fun answer => performs_orFault fun _ => Keeps.performs ?_
    exact keeps_bind (keeps_guard (Request.isTouchless_pause _)) fun _ => keeps_complete_touchless
  · refine keeps_bind (keeps_guard (Request.followsUp_guarded nofun nofun)) fun answer => ?_
    refine keeps_bind (keeps_orFault answer) fun _ => ?_
    refine keeps_bind (keeps_guard (Request.followsUp_guarded nofun nofun)) fun _ => ?_
    exact keeps_complete_followsUp

/-- **A change touches its element only**, with or without pressing Enter. -/
theorem actsOn_change {submit : Bool} {a : Action} (other : a ≠ .assert)
    (planned : ∀ query, a.touches step query = (step.input?.map (Call.fill query)).toList ++
      ((if submit then [.press query "Enter"] else []) ++ []))
    (h : Yields (change submit ctx step).run t r) : ActsOn a step t := by
  refine actsOn_start h fun started u hu => ?_
  refine (sought_of_yields hu).actsOn (fun attempts => keeps_fail_aside step _ _ _) ?_
  intro located v r hv
  refine acts_of_followsUp other (fun picture => ?_) (fun picture => ?_) hv
  · rw [planned]
    refine performs_typeInto fun typed => performs_submitted fun action => Keeps.performs ?_
    exact keeps_complete_touchless
  · have fills : ∀ query value, Request.FollowsUp picture located.details
        (.guarded (.fill query value)) := fun _ _ => Request.followsUp_guarded nofun nofun
    have presses : ∀ query key, Request.FollowsUp picture located.details
        (.guarded (.press query key)) := fun _ _ => Request.followsUp_guarded nofun nofun
    refine keeps_bind (keeps_typeInto fills _ _) fun typed => ?_
    refine keeps_bind (keeps_submitted presses _ _ _) fun action => ?_
    exact keeps_complete_followsUp

/-- **An assertion looks at its element only**, and exactly once unless it is cancelled. -/
theorem actsOn_assertion (h : Yields (assertion ctx step).run t r) : ActsOn .assert step t := by
  refine actsOn_start h fun started u hu => ?_
  have idle : ∀ {u : Transcript}, u.Within Request.IsAside → ActsOn .assert step u := by
    intro u aside
    exact .unseen (Transcript.Within.unseen (aside.mono fun _ h => h.2)).not_sights
      (Transcript.Within.idle (aside.mono fun _ h => h.1))
  dsimp only at hu
  cases named : AssertKind.ofName? (step.typeAssert.getD "") with
  | none =>
    simp only [named] at hu
    exact idle ((keeps_fail_aside step _ _ _).within hu)
  | some kind =>
    simp only [named] at hu
    by_cases lacking : (kind.comparesText && step.valueToAssert.isNone) = true
    · rw [if_pos lacking] at hu
      obtain ⟨rfl, -⟩ := yields_run_throw.1 hu
      exact idle (Transcript.within_nil _)
    · rw [if_neg lacking] at hu
      refine (sought_of_yields hu).actsOn (fun attempts => keeps_fail_aside step _ _ _) ?_
      intro located v r hv
      have plan : Action.assert.touches step located.query = [kind.look located.query] := by
        simp [Action.touches, named]
      have seeksNone : v.Within Request.SeeksNone := by
        refine Keeps.within (keeps_bind (keeps_examine (fun _ => nofun) (fun _ => nofun) _ _ _)
          fun finding => ?_) hv
        obtain ⟨actual, failure⟩ := finding
        cases failure with
        | some message => exact keeps_fail nofun nofun (fun _ _ => nofun) step _ _ _
        | none => exact keeps_complete nofun fun _ _ _ => nofun
      have carried : Carried [kind.look located.query] v.touches := by
        refine performs_examine (fun finding => Keeps.performs ?_) v r hv
        obtain ⟨actual, failure⟩ := finding
        cases failure with
        | some message =>
          exact keeps_fail Request.isAside_screenshot.1.touchless nofun (fun _ _ => nofun) step _ _ _
        | none => exact keeps_complete nofun fun _ _ _ => nofun
      refine ⟨seeksNone.unseen, plan ▸ carried, fun _ => ⟨kind, named, fun calm => ?_⟩,
        fun other => absurd rfl other⟩
      rw [← Transcript.map_touches]
      exact carried.of_singleton ((examined_of_yields hv).touches_ne_nil calm)

end Handler

/-- **Clicks, changes and assertions touch only the first candidate of their step that is seen**, as
it is planned, in every world. -/
theorem handler_actsOn {a : Action} (aimed : a ∈ Action.aimed) {σ : Type} (w : World σ)
    (ctx : StepContext) (step : StepRecord) (s : σ) :
    ActsOn a step (w.transcript (a.handler ctx step).run s) := by
  have yields := w.yields (a.handler ctx step).run s
  cases a with
  | click => exact Handler.actsOn_click yields
  | change => exact Handler.actsOn_change Action.noConfusion (fun _ => (List.append_nil _).symm) yields
  | changeWithEnter => exact Handler.actsOn_change Action.noConfusion (fun _ => rfl) yields
  | assert => exact Handler.actsOn_assertion yields
  | navigate => simp [Action.aimed] at aimed
  | wait => simp [Action.aimed] at aimed
  | otp => simp [Action.aimed] at aimed

/-- A page with a field. -/
def fieldScene : Simulation.Solo where
  scene := { elements := Dict.ofList [("#name", {})] }

/-- A step that has another candidate before the field. -/
def fieldStep : StepRecord :=
  (((StepRecord.ofAction 1 .changeWithEnter).withSelector .id "user").withSelector .id
    "name").withInput "Ada"

/-- The surroundings in which it is carried out. -/
def fieldSurroundings : Surroundings Simulation.Solo := Simulation.surroundings { epoch := ⟨0, 0⟩ }

/-- The field is filled in, and Enter is pressed in it. -/
theorem actsOn_of_fieldScene :
    (fieldSurroundings.world.transcript (Action.changeWithEnter.handler ⟨{}, Dict.empty⟩
      fieldStep).run fieldScene).touches =
        [(.fill "#name" "Ada", true), (.press "#name" "Enter", true)] ∧
      ActsOn .changeWithEnter fieldStep (fieldSurroundings.world.transcript
        (Action.changeWithEnter.handler ⟨{}, Dict.empty⟩ fieldStep).run fieldScene) :=
  ⟨by decide +kernel, handler_actsOn (by decide) fieldSurroundings.world ⟨{}, Dict.empty⟩ fieldStep
    fieldScene⟩

end Playback
