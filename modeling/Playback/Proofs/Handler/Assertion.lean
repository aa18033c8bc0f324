import Playback.Proofs.Handler.Element
import Playback.Proofs.Text.Blank

/-!
# The verdict of an assertion

An assertion that is not valid fails before anything is waited for. A valid one is judged by what the
page answers about the first candidate seen.

* `AssertKind.HoldsOfText`, `AssertKind.HoldsOfState` — **the predicates** of assertions, and that the
  checks of the handler are exact for them;
* `Verdict`, `Judged` — a completion exactly if the predicate holds, or else a failure that shows what
  was compared;
* `AsksFirstSeen` — the one candidate that is looked at;
* `Asserted`, `Handler.asserted_of_yields` — the course of a valid assertion, from that of its search;
* `Judges`, `assertion_judges` — **the verdict of an assertion** that is not cancelled, in every world.
-/

namespace Playback

open Routine Attempt

/-! ## Predicates -/

namespace Text

/-- **One text stands in another**, unchanged and in one piece. -/
def Shows (whole part : String) : Prop := part.toList <:+: whole.toList

variable {part s t : String}

/-- A text shows itself. -/
theorem shows_self (s : String) : Shows s s := List.infix_rfl

/-- What the first part of a text shows, the text shows. -/
theorem Shows.append_left (h : Shows s part) (t : String) : Shows (s ++ t) part := by
  rw [Shows, String.toList_append]
  exact h.trans (List.prefix_append _ _).isInfix

/-- So it does with its second part. -/
theorem Shows.append_right (h : Shows t part) (s : String) : Shows (s ++ t) part := by
  rw [Shows, String.toList_append]
  exact h.trans (List.suffix_append _ _).isInfix

/-- A text in quotation marks is shown. -/
theorem shows_quoted (s : String) : Shows (quoted s) s :=
  ((shows_self s).append_right _).append_left _

/-- What is said of a comparison shows the query and both texts. -/
theorem shows_comparison (lead verb query expected actual : String) :
    ∀ part ∈ [query, expected, actual], Shows
      (lead ++ query ++ verb ++ quoted expected ++ " but found " ++ quoted actual) part := by
  simp only [List.forall_mem_cons]
  refine ⟨?_, ?_, ?_, fun _ mem => nomatch mem⟩
  · have named : Shows (lead ++ query) query := (shows_self query).append_right lead
    exact (((named.append_left verb).append_left _).append_left _).append_left _
  · have named : Shows (lead ++ query ++ verb ++ quoted expected) expected :=
      (shows_quoted expected).append_right _
    exact (named.append_left _).append_left _
  · exact (shows_quoted actual).append_right _

end Text

namespace AssertKind

variable {kind : AssertKind} {query expected actual message : String}

/-- **A predicate on texts**: they are equal but for the blanks at their ends, or one stands in the
other as it is. -/
def HoldsOfText (expected actual : String) : AssertKind → Prop
  | equals => ∃ core, Text.Trims actual.toList core ∧ Text.Trims expected.toList core
  | contains => Text.Shows actual expected
  | _ => False

/-- **A predicate on a state**: that its one flag is set. -/
def HoldsOfState (actual : ElementState) : AssertKind → Prop
  | isVisible => actual.visible = true
  | isEnabled => actual.enabled = true
  | isClickable => actual.clickable = true
  | _ => False

/-- The texts that a failure shows. -/
def shownTexts (expected actual : String) : AssertKind → List String
  | equals => [Text.trim expected, Text.trim actual]
  | contains => [expected, Text.trim actual]
  | _ => []

/-- **The check of a text is exact.** -/
theorem textFailure?_eq_none_iff (query : String) (compares : kind.comparesText = true) :
    kind.textFailure? query expected actual = none ↔ kind.HoldsOfText expected actual := by
  cases kind with
  | equals => simp [textFailure?, HoldsOfText, Text.trim_eq_trim_iff]
  | contains => simp [textFailure?, HoldsOfText, Text.Shows, Text.occursIn_iff]
  | isVisible => cases compares
  | isEnabled => cases compares
  | isClickable => cases compares

/-- **So is the check of a state.** -/
theorem stateFailure?_eq_none_iff (query : String) {actual : ElementState} (states : kind.comparesText = false) :
    kind.stateFailure? query actual = none ↔ kind.HoldsOfState actual := by
  cases kind with
  | equals => cases states
  | contains => cases states
  | isVisible => simp [stateFailure?, HoldsOfState]
  | isEnabled => simp [stateFailure?, HoldsOfState]
  | isClickable => simp [stateFailure?, HoldsOfState]

/-- **A failed check of a text** shows the query, and what was compared. -/
theorem shows_of_textFailure? (h : kind.textFailure? query expected actual = some message) :
    ∀ part ∈ query :: kind.shownTexts expected actual, Text.Shows message part := by
  cases kind with
  | equals =>
    rw [textFailure?] at h
    split at h
    · cases h
    · obtain rfl := Option.some.inj h
      exact Text.shows_comparison _ _ query (Text.trim expected) (Text.trim actual)
  | contains =>
    rw [textFailure?] at h
    split at h
    · cases h
    · obtain rfl := Option.some.inj h
      exact Text.shows_comparison _ _ query expected (Text.trim actual)
  | isVisible => cases h
  | isEnabled => cases h
  | isClickable => cases h

/-- **A failed check of a state** shows the query. -/
theorem shows_of_stateFailure? {actual : ElementState}
    (h : kind.stateFailure? query actual = some message) : Text.Shows message query := by
  have shown : ∀ lead rest, Text.Shows (lead ++ query ++ rest) query := fun lead rest =>
    ((Text.shows_self query).append_right lead).append_left rest
  cases kind with
  | equals => cases h
  | contains => cases h
  | isVisible | isEnabled | isClickable =>
    rw [stateFailure?] at h
    split at h
    · cases h
    · obtain rfl := Option.some.inj h
      exact shown _ _

/-- The name of an assertion is that of its kind only. -/
theorem ofName?_getD_iff {typeAssert : Option String} :
    ofName? (typeAssert.getD "") = some kind ↔ typeAssert = some kind.name := by
  constructor
  · intro h
    rw [ofName?] at h
    have found := List.find?_some h
    have named : kind.name = typeAssert.getD "" := of_decide_eq_true found
    cases typeAssert with
    | none => cases kind <;> exact absurd named (by decide)
    | some name => rw [named, Option.getD_some]
  · rintro rfl
    cases kind <;> decide

end AssertKind

/-! ## Verdicts -/

/-- **A verdict**: the step is completed exactly if something holds; or else it failed, but not so
that nothing was found, and the error shows some texts. -/
structure Verdict (holds : Prop) (shown : List String)
    (result : Except StepError ActionOutcome) : Prop where
  completed_iff : result = .ok .completed ↔ holds
  failed : ¬ holds → ∃ error, result = .ok (.failed error) ∧ ∀ part ∈ shown, Text.Shows error part

/-- **A step is judged by an answer of the page**: a fault is raised, and anything else decides. -/
def Judged {α : Type} (holds : α → Prop) (shown : α → List String) :
    Except PageFault α → Except StepError ActionOutcome → Prop
  | .error e, result => result = .error (.page e)
  | .ok actual, result => Verdict (holds actual) (shown actual) result

/-- **The first candidate that is seen is asked something** right after that. -/
inductive AsksFirstSeen (step : StepRecord) (query : String) (asked : Answered) :
    Transcript → Prop where
  | intro {before after : Transcript} {place timeout : Nat} {selector : Selector}
      (unseen : before.Unseen (step.selectors.take place))
      (selector_eq : step.selectors[place]? = some selector)
      (query_eq : selector.query? = some query) :
      AsksFirstSeen step query asked
        (before ++ ⟨.guarded (.waitVisible query timeout), .answered (.ok true)⟩ :: asked :: after)

/-- What is asked follows a sighting. -/
theorem AsksFirstSeen.sights {step : StepRecord} {query : String} {asked : Answered} {t : Transcript}
    (h : AsksFirstSeen step query asked t) : ∃ x ∈ t, x.Sights := by
  cases h
  exact ⟨_, List.mem_append_right _ List.mem_cons_self, rfl⟩

/-- Requests that neither wait for a phase of the page nor for a candidate. -/
def Request.WaitsNot (q : Request) : Prop :=
  q.SeeksNone ∧ ∀ state timeout, q ≠ .guarded (.loadState state timeout)

/-- **What an assertion comes to**, along its requests with their answers. -/
structure Judges (step : StepRecord) (t : Transcript) (result : Except StepError ActionOutcome) :
    Prop where
  /-- One of no known kind fails before anything is waited for. -/
  unsupported : (∀ kind : AssertKind, step.typeAssert ≠ some kind.name) →
    (∃ error, result = .ok (.failed error)) ∧ t.Within Request.WaitsNot
  /-- One about a text is invalid if there is no text to compare with. -/
  lacking : ∀ kind : AssertKind, step.typeAssert = some kind.name → kind.comparesText = true →
    step.valueToAssert = none →
      (∃ reason, result = .error (.invalidStep step.indexStep reason)) ∧ t.Within Request.WaitsNot
  /-- A valid one is fatal if no candidate is seen; all of known types were waited for. -/
  unmatched : ∀ kind : AssertKind, step.typeAssert = some kind.name →
    (kind.comparesText = true → step.valueToAssert.isSome = true) → (∀ x ∈ t, ¬ x.Sights) →
      (∃ error, result = .ok (.unmatched error)) ∧ t.Unseen step.selectors
  /-- One about a text is judged by the text of the first candidate that is seen. -/
  text : ∀ (kind : AssertKind) (expected : String), step.typeAssert = some kind.name →
    kind.comparesText = true → step.valueToAssert = some expected → (∃ x ∈ t, x.Sights) →
      ∃ query answer, AsksFirstSeen step query ⟨.guarded (.text query), .answered answer⟩ t ∧
        Judged (fun actual => kind.HoldsOfText expected actual)
          (fun actual => query :: kind.shownTexts expected actual) answer result
  /-- One about a state is judged by its state. -/
  state : ∀ kind : AssertKind, step.typeAssert = some kind.name → kind.comparesText = false →
    (∃ x ∈ t, x.Sights) →
      ∃ query answer, AsksFirstSeen step query ⟨.guarded (.state query), .answered answer⟩ t ∧
        Judged (fun actual => kind.HoldsOfState actual) (fun _ => [query]) answer result

/-! ## The course of an assertion -/

/-- **How an assertion ends after its check**: it fails with the reason, or it is completed. -/
structure Concludes (f : Json × Option String → Attempt ActionOutcome) : Prop where
  failed : ∀ actual message t r, Yields (f (actual, some message)).run t r →
    r = .ok (.failed message)
  completed : ∀ actual t r, Yields (f (actual, none)).run t r → r = .ok .completed

/-- **An exact check gives a verdict.** -/
theorem Concludes.verdict {f : Json × Option String → Attempt ActionOutcome} (h : Concludes f)
    {holds : Prop} {shown : List String} {actual : Json} {failure : Option String} {t : Transcript}
    {r : Except StepError ActionOutcome} (exact_check : failure = none ↔ holds)
    (shows : ∀ message, failure = some message → ∀ part ∈ shown, Text.Shows message part)
    (rest : Yields (f (actual, failure)).run t r) : Verdict holds shown r := by
  cases failure with
  | none =>
    have held : holds := exact_check.1 rfl
    obtain rfl := h.completed actual t r rest
    exact ⟨iff_of_true rfl held, fun fails => absurd held fails⟩
  | some message =>
    have fails : ¬ holds := fun held => Option.some_ne_none message (exact_check.2 held)
    obtain rfl := h.failed actual message t r rest
    exact ⟨iff_of_false nofun fails, fun _ => ⟨message, rfl, shows message rfl⟩⟩

/-- **How a valid assertion goes.** -/
inductive Asserted (step : StepRecord) (kind : AssertKind) (expected : String) (t : Transcript) :
    Except StepError ActionOutcome → Prop where
  | cancelled (shows : t.ShowsCancellation) : Asserted step kind expected t (.error .cancelled)
  | unmatched {error : String} (unseen : t.Unseen step.selectors) :
      Asserted step kind expected t (.ok (.unmatched error))
  | text {r : Except StepError ActionOutcome} {query : String} {answer : Except PageFault String}
      (compares : kind.comparesText = true)
      (asks : AsksFirstSeen step query ⟨.guarded (.text query), .answered answer⟩ t)
      (judged : Judged (fun actual => kind.HoldsOfText expected actual)
        (fun actual => query :: kind.shownTexts expected actual) answer r) :
      Asserted step kind expected t r
  | state {r : Except StepError ActionOutcome} {query : String}
      {answer : Except PageFault ElementState} (states : kind.comparesText = false)
      (asks : AsksFirstSeen step query ⟨.guarded (.state query), .answered answer⟩ t)
      (judged : Judged (fun actual => kind.HoldsOfState actual) (fun _ => [query]) answer r) :
      Asserted step kind expected t r

namespace Handler

variable {ctx : StepContext} {step : StepRecord} {kind : AssertKind} {t : Transcript}
  {r : Except StepError ActionOutcome}

/-- **An element that was seen is judged** by what the page answers about it. -/
theorem asserted_of_examined {expected : String} {timeout : Nat} {located : Located}
    {before after : Transcript} {f : Json × Option String → Attempt ActionOutcome}
    (concludes : Concludes f) (unseen : before.Unseen (step.selectors.take located.position))
    (selector_eq : step.selectors[located.position]? = some located.selector)
    (query_eq : located.selector.query? = some located.query)
    (h : Examined kind located.query expected f after r) :
    Asserted step kind expected (before ++ ⟨.guarded (.waitVisible located.query timeout),
      .answered (.ok true)⟩ :: after) r := by
  have asks : ∀ asked rest, AsksFirstSeen step located.query asked (before ++
      ⟨.guarded (.waitVisible located.query timeout), .answered (.ok true)⟩ :: asked :: rest) :=
    fun asked rest => .intro unseen selector_eq query_eq
  cases h with
  | cancelled shows =>
    have later := (Transcript.showsCancellation_cons
      ⟨.guarded (.waitVisible located.query timeout), .answered (.ok true)⟩ after).2 (.inr shows)
    exact .cancelled ((Transcript.showsCancellation_append _ _).2 (.inr later))
  | textFault compares => exact .text compares (asks _ _) rfl
  | stateFault states => exact .state states (asks _ _) rfl
  | @text _ _ actual compares rest =>
    have exact_check : kind.textFailure? located.query expected actual = none ↔
        kind.HoldsOfText expected actual := AssertKind.textFailure?_eq_none_iff _ compares
    refine .text compares (asks _ _) (concludes.verdict exact_check (fun message failure => ?_) rest)
    exact AssertKind.shows_of_textFailure? failure
  | @state _ _ actual states rest =>
    have exact_check : kind.stateFailure? located.query actual = none ↔
        kind.HoldsOfState actual := AssertKind.stateFailure?_eq_none_iff _ states
    refine .state states (asks _ _) (concludes.verdict exact_check (fun message failure => ?_) rest)
    exact List.forall_mem_singleton.2 (AssertKind.shows_of_stateFailure? failure)

/-- **A valid assertion goes in no other way.** -/
theorem asserted_of_yields (named : step.typeAssert = some kind.name)
    (valid : kind.comparesText = true → step.valueToAssert.isSome = true)
    (h : Yields (assertion ctx step).run t r) :
    Asserted step kind (step.valueToAssert.getD "") t r := by
  obtain ⟨started, u, t_eq, hu⟩ := yields_start_bind h
  have lacks : ¬ (kind.comparesText && step.valueToAssert.isNone) = true := by
    simpa [Option.isNone_iff_eq_none, Option.isSome_iff_ne_none] using valid
  simp only [AssertKind.ofName?_getD_iff.2 named] at hu
  rw [if_neg lacks] at hu
  -- what starts the step counts as the beginning of its search
  have sought := (sought_of_yields hu).prepend (within_begins step started)
    (by simp [Answered.ShowsCancellation])
  rw [List.cons_append, List.cons_append, List.nil_append, ← t_eq] at sought
  cases sought with
  | cancelled idle blind shows => exact .cancelled shows
  | missed idle calm unseen rest =>
    have after := Transcript.Within.unseen
      (((keeps_fail_aside step _ _ _).within rest).mono fun _ h => h.2)
    obtain rfl := eq_ok_of_yields_fail rest
    exact .unmatched (by simpa using unseen.append after)
  | found idle calm unseen selector_eq query_eq attempts_eq rest =>
    refine asserted_of_examined ⟨?_, ?_⟩ unseen selector_eq query_eq (examined_of_yields rest)
    · intro actual message t r ended
      exact eq_ok_of_yields_fail ended
    · intro actual t r ended
      exact eq_ok_of_yields_complete ended

/-- An assertion of no known kind fails. -/
theorem judges_unsupported (unknown : ∀ kind : AssertKind, step.typeAssert ≠ some kind.name)
    (h : Yields (assertion ctx step).run t r) :
    (∃ error, r = .ok (.failed error)) ∧ t.Within Request.WaitsNot := by
  have unnamed : AssertKind.ofName? (step.typeAssert.getD "") = none := by
    rw [Option.eq_none_iff_forall_not_mem]
    exact fun kind named => unknown kind (AssertKind.ofName?_getD_iff.1 named)
  obtain ⟨started, u, rfl, hu⟩ := yields_start_bind h
  simp only [unnamed] at hu
  refine ⟨⟨_, eq_ok_of_yields_fail hu⟩, within_started ⟨nofun, nofun⟩ ⟨nofun, nofun⟩ ?_⟩
  exact (keeps_fail ⟨nofun, nofun⟩ ⟨nofun, nofun⟩ (fun _ _ => ⟨nofun, nofun⟩) step _ _ _).within hu

/-- One about a text is invalid without a text to compare with. -/
theorem judges_lacking (named : step.typeAssert = some kind.name)
    (compares : kind.comparesText = true) (none : step.valueToAssert = none)
    (h : Yields (assertion ctx step).run t r) :
    (∃ reason, r = .error (.invalidStep step.indexStep reason)) ∧ t.Within Request.WaitsNot := by
  obtain ⟨started, u, rfl, hu⟩ := yields_start_bind h
  have lacks : (kind.comparesText && step.valueToAssert.isNone) = true := by
    rw [compares, none]
    rfl
  simp only [AssertKind.ofName?_getD_iff.2 named] at hu
  rw [if_pos lacks] at hu
  obtain ⟨rfl, rfl⟩ := yields_run_throw.1 hu
  refine ⟨⟨_, rfl⟩, within_started ⟨nofun, nofun⟩ ⟨nofun, nofun⟩ (Transcript.within_nil _)⟩

end Handler

/-- **The verdict of an assertion** that is not cancelled, in every world. -/
theorem assertion_judges {σ : Type} (w : World σ) (ctx : StepContext) (step : StepRecord) (s : σ)
    (calm : ¬ (w.transcript (Action.assert.handler ctx step).run s).ShowsCancellation) :
    Judges step (w.transcript (Action.assert.handler ctx step).run s)
      (w.run (Action.assert.handler ctx step).run s).1 := by
  have yields := w.yields (Action.assert.handler ctx step).run s
  generalize w.transcript (Action.assert.handler ctx step).run s = t at yields calm ⊢
  generalize (w.run (Action.assert.handler ctx step).run s).1 = result at yields ⊢
  refine ⟨fun unknown => Handler.judges_unsupported unknown yields, ?_, ?_, ?_, ?_⟩
  · intro kind named compares none
    exact Handler.judges_lacking named compares none yields
  · intro kind named valid blind
    cases Handler.asserted_of_yields named valid yields with
    | cancelled shows => exact absurd shows calm
    | unmatched unseen => exact ⟨⟨_, rfl⟩, unseen⟩
    | text compares asks judged | state states asks judged =>
      -- whoever is asked was seen before
      obtain ⟨x, mem, sights⟩ := asks.sights
      exact absurd sights (blind x mem)
  · intro kind expected named compares given ⟨x, mem, sights⟩
    have asserted := Handler.asserted_of_yields named (fun _ => by rw [given]; rfl) yields
    rw [given, Option.getD_some] at asserted
    cases asserted with
    | cancelled shows => exact absurd shows calm
    | unmatched unseen => exact absurd sights (unseen.not_sights x mem)
    | text compares asks judged => exact ⟨_, _, asks, judged⟩
    | state states asks judged => exact absurd (compares.symm.trans states) nofun
  · intro kind named states ⟨x, mem, sights⟩
    have asserted := Handler.asserted_of_yields named
      (fun compares => absurd (compares.symm.trans states) nofun) yields
    cases asserted with
    | cancelled shows => exact absurd shows calm
    | unmatched unseen => exact absurd sights (unseen.not_sights x mem)
    | text compares asks judged => exact absurd (compares.symm.trans states) nofun
    | state states asks judged => exact ⟨_, _, asks, judged⟩

/-- A page with a greeting. -/
def greetingScene : Simulation.Solo where
  scene := { elements := Dict.ofList [("#greeting", { text := "  Hello \n" })] }

/-- A step that compares its text. -/
def greetingStep : StepRecord :=
  { (StepRecord.ofAction 1 .assert).withSelector .id "greeting" with
    typeAssert := some AssertKind.equals.name, valueToAssert := some "Hello" }

/-- The surroundings in which it is carried out. -/
def greetingSurroundings : Surroundings Simulation.Solo := Simulation.surroundings { epoch := ⟨0, 0⟩ }

/-- The greeting is the one expected but for the blanks around it. -/
theorem judges_of_greetingScene :
    (greetingSurroundings.world.run (Action.assert.handler ⟨{}, Dict.empty⟩ greetingStep).run
      greetingScene).1 = .ok .completed ∧
      Judges greetingStep (greetingSurroundings.world.transcript
        (Action.assert.handler ⟨{}, Dict.empty⟩ greetingStep).run greetingScene) (.ok .completed) := by
  have completed : (greetingSurroundings.world.run (Action.assert.handler ⟨{}, Dict.empty⟩
      greetingStep).run greetingScene).1 = .ok .completed := by decide +kernel
  have calm : greetingSurroundings.cancelled (greetingSurroundings.world.run
      (Action.assert.handler ⟨{}, Dict.empty⟩ greetingStep).run greetingScene).2 = false := by
    decide +kernel
  refine ⟨completed, completed ▸ assertion_judges greetingSurroundings.world ⟨{}, Dict.empty⟩
    greetingStep greetingScene fun shows => ?_⟩
  exact absurd ((greetingSurroundings.cancelled_of_transcript shows).symm.trans calm) nofun

end Playback
