import Mathlib.Data.List.Forall2
import Playback.Proofs.Handler.Discipline
import Playback.Proofs.Interpreter.Selectors

/-!
# The search for an element

A search waits for the candidates of known types, one after the other, and ends at the first that is
seen. What it asks for, and what it hands back, is told by the list of candidates and by the answers.

* `Selector.waits` — **the waits of a whole search**: the first candidate waited for is given the
  primary timeout, all others the fallback timeout;
* `Answered.Misses` — a wait that was answered without a sighting, by the page or by a fault of it;
* `Searched`, `searched_of_yields` — **the course of a search**, by induction on the candidates;
* `Transcript.Unseen` — none of some candidates became visible;
* `Resolves`, `resolve_first_visible` — **the search settles on the first candidate seen**, in every
  world.
-/

namespace Playback

open Routine

/-! ## Waits -/

namespace Selector

variable {primary fallback : Nat}

/-- The timeout of a wait, after some others. -/
def timeout (primary fallback made : Nat) : Nat := if made = 0 then primary else fallback

/-- **The waits for all candidates** of known types, in order, after some others. -/
def waits (primary fallback made : Nat) (candidates : List Selector) : List Call :=
  ((candidates.filterMap query?).zipIdx made).map fun (query, i) =>
    .waitVisible query (timeout primary fallback i)

/-- A selector has a query exactly if its type is known. -/
theorem isSome_query? (s : Selector) : s.query?.isSome = s.isKnown := by
  rw [query?, Option.isSome_map, isSome_kind?]

/-- A selector of unknown type is not waited for. -/
theorem waits_cons_unknown {s : Selector} (unknown : s.query? = none) (made : Nat)
    (candidates : List Selector) :
    waits primary fallback made (s :: candidates) = waits primary fallback made candidates := by
  rw [waits, waits, List.filterMap_cons_none unknown]

/-- One of a known type is waited for first. -/
theorem waits_cons_known {s : Selector} {query : String} (known : s.query? = some query)
    (made : Nat) (candidates : List Selector) :
    waits primary fallback made (s :: candidates) =
      .waitVisible query (timeout primary fallback made) ::
        waits primary fallback (made + 1) candidates := by
  rw [waits, waits, List.filterMap_cons_some known]
  rfl

/-- A selector of unknown type is not counted. -/
theorem countP_cons_unknown {s : Selector} (unknown : s.query? = none)
    (candidates : List Selector) :
    (s :: candidates).countP isKnown = candidates.countP isKnown :=
  List.countP_cons_of_neg (by simp [← isSome_query?, unknown])

/-- One of a known type is. -/
theorem countP_cons_known {s : Selector} {query : String} (known : s.query? = some query)
    (candidates : List Selector) :
    (s :: candidates).countP isKnown = candidates.countP isKnown + 1 :=
  List.countP_cons_of_pos (by simp [← isSome_query?, known])

/-- **The waits for some candidates and others** are those for the ones, and then those for the
others. -/
theorem waits_append (made : Nat) (candidates others : List Selector) :
    waits primary fallback made (candidates ++ others) =
      waits primary fallback made candidates ++
        waits primary fallback (made + candidates.countP isKnown) others := by
  induction candidates generalizing made with
  | nil => rfl
  | cons s candidates ih =>
    cases known : s.query? with
    | none =>
      rw [List.cons_append, waits_cons_unknown known, waits_cons_unknown known, ih,
        countP_cons_unknown known]
    | some query =>
      have shifted : made + 1 + candidates.countP isKnown =
          made + (candidates.countP isKnown + 1) := by omega
      rw [List.cons_append, waits_cons_known known, waits_cons_known known, ih,
        countP_cons_known known, shifted, List.cons_append]

end Selector

/-! ## Answers -/

/-- The requests of a transcript. -/
def Transcript.requests (t : Transcript) : List Request := t.map (·.request)

namespace Answered

/-- The candidate that is waited for. -/
def sought? : Answered → Option String
  | ⟨.guarded (.waitVisible query _), _⟩ => some query
  | _ => none

/-- A candidate that is waited for becomes visible. -/
def Sights : Answered → Prop
  | ⟨.guarded (.waitVisible _ _), ending⟩ => ending = .answered (.ok true)
  | _ => False

/-- **A wait without a sighting**: the page saw nothing in time, or it failed. -/
inductive Misses : Call → Answered → Prop where
  | wait {query : String} {timeout : Nat} {answer : Except PageFault Bool}
      (unseen : answer ≠ .ok true) :
      Misses (.waitVisible query timeout) ⟨.guarded (.waitVisible query timeout), .answered answer⟩

/-- What misses is no sighting, and does not show that the run is cancelled. -/
theorem Misses.quiet {c : Call} {x : Answered} (h : Misses c x) :
    ¬ x.Sights ∧ ¬ x.ShowsCancellation := by
  cases h with
  | wait unseen =>
    refine ⟨fun sights => unseen (Guarded.answered.inj sights), ?_⟩
    rintro (refused | interrupted)
    · exact nomatch refused
    · exact nomatch interrupted

/-- The requests of waits that missed are the waits. -/
theorem requests_of_misses {calls : List Call} {t : Transcript} (h : List.Forall₂ Misses calls t) :
    t.requests = calls.map .guarded := by
  induction h with
  | nil => rfl
  | cons first _ ih =>
    cases first
    exact congrArg (_ :: ·) ih

/-- Each of them missed. -/
theorem exists_misses {calls : List Call} {t : Transcript} (h : List.Forall₂ Misses calls t) :
    ∀ x ∈ t, ∃ c, Misses c x := by
  induction h with
  | nil => exact fun x mem => nomatch mem
  | cons first _ ih => exact List.forall_mem_cons.2 ⟨⟨_, first⟩, ih⟩

end Answered

/-! ## The course of a search -/

/-- **The search arrives at a candidate** when it has missed all those before it: with its place in
the list, and the number of candidates waited for. -/
def Reaches (primary fallback : Nat) (candidates : List Selector) (position made : Nat)
    (missed : Transcript) (selector : Selector) (place waited : Nat) : Prop :=
  ∃ earlier later, candidates = earlier ++ selector :: later ∧ place = position + earlier.length ∧
    waited = made + earlier.countP Selector.isKnown ∧
    List.Forall₂ Answered.Misses (Selector.waits primary fallback made earlier) missed

/-- **How a search goes** among candidates of which the first has some place, after some waits: it
sees one at which it has arrived, it misses all, or it is cancelled at the wait for one of them. -/
inductive Searched (primary fallback : Nat) (candidates : List Selector) (position made : Nat) :
    Transcript → Except StepError Resolution → Prop where
  | found {missed : Transcript} {waited : Nat} {located : Located}
      (reached : Reaches primary fallback candidates position made missed located.selector
        located.position waited)
      (query_eq : located.selector.query? = some located.query)
      (attempts_eq : located.attempts = waited + 1) :
      Searched primary fallback candidates position made
        (missed ++ [⟨.guarded (.waitVisible located.query
          (Selector.timeout primary fallback waited)), .answered (.ok true)⟩])
        (.ok (.found located))
  | notFound {missed : Transcript} {tried : Nat}
      (tried_eq : tried = made + candidates.countP Selector.isKnown)
      (missed_all :
        List.Forall₂ Answered.Misses (Selector.waits primary fallback made candidates) missed) :
      Searched primary fallback candidates position made missed (.ok (.notFound tried))
  | cancelled {missed : Transcript} {selector : Selector} {query : String} {place waited : Nat}
      {ending : Guarded (Except PageFault Bool)}
      (reached : Reaches primary fallback candidates position made missed selector place waited)
      (query_eq : selector.query? = some query)
      (unanswered : ending = .refused ∨ ending = .interrupted) :
      Searched primary fallback candidates position made
        (missed ++ [⟨.guarded (.waitVisible query (Selector.timeout primary fallback waited)),
          ending⟩])
        (.error .cancelled)

section

variable {primary fallback position made place waited : Nat} {candidates : List Selector}
  {c selector : Selector} {query : String} {missed t : Transcript}
  {r : Except StepError Resolution} {answer : Except PageFault Bool}

/-- The search begins at the first candidate. -/
theorem reaches_first : Reaches primary fallback (c :: candidates) position made [] c position made :=
  ⟨[], candidates, rfl, rfl, rfl, .nil⟩

/-- It arrives at one of the candidates. -/
theorem Reaches.mem (h : Reaches primary fallback candidates position made missed selector place
    waited) : selector ∈ candidates := by
  obtain ⟨earlier, later, rfl, -⟩ := h
  exact List.mem_append_right earlier List.mem_cons_self

/-- It arrives at the others behind one of unknown type. -/
theorem Reaches.pass (unknown : c.query? = none)
    (h : Reaches primary fallback candidates (position + 1) made missed selector place waited) :
    Reaches primary fallback (c :: candidates) position made missed selector place waited := by
  obtain ⟨earlier, later, rfl, rfl, rfl, before⟩ := h
  refine ⟨c :: earlier, later, rfl, ?_, ?_, ?_⟩
  · rw [List.length_cons]
    omega
  · rw [Selector.countP_cons_unknown unknown]
  · rwa [Selector.waits_cons_unknown unknown]

/-- It arrives at them behind one that it missed. -/
theorem Reaches.miss (known : c.query? = some query) (unseen : answer ≠ .ok true)
    (h : Reaches primary fallback candidates (position + 1) (made + 1) missed selector place
      waited) :
    Reaches primary fallback (c :: candidates) position made
      (⟨.guarded (.waitVisible query (Selector.timeout primary fallback made)),
        .answered answer⟩ :: missed) selector place waited := by
  obtain ⟨earlier, later, rfl, rfl, rfl, before⟩ := h
  refine ⟨c :: earlier, later, rfl, ?_, ?_, ?_⟩
  · rw [List.length_cons]
    omega
  · rw [Selector.countP_cons_known known]
    omega
  · rw [Selector.waits_cons_known known]
    exact .cons (.wait unseen) before

/-- **A selector of unknown type is passed over.** -/
theorem Searched.pass (unknown : c.query? = none)
    (h : Searched primary fallback candidates (position + 1) made t r) :
    Searched primary fallback (c :: candidates) position made t r := by
  cases h with
  | found reached query_eq attempts_eq => exact .found (reached.pass unknown) query_eq attempts_eq
  | notFound tried_eq missed_all =>
    refine .notFound ?_ ?_
    · rw [tried_eq, Selector.countP_cons_unknown unknown]
    · rwa [Selector.waits_cons_unknown unknown]
  | cancelled reached query_eq unanswered =>
    exact .cancelled (reached.pass unknown) query_eq unanswered

/-- **A candidate that is not seen is left behind.** -/
theorem Searched.miss (known : c.query? = some query) (unseen : answer ≠ .ok true)
    (h : Searched primary fallback candidates (position + 1) (made + 1) t r) :
    Searched primary fallback (c :: candidates) position made
      (⟨.guarded (.waitVisible query (Selector.timeout primary fallback made)),
        .answered answer⟩ :: t) r := by
  cases h with
  | found reached query_eq attempts_eq =>
    exact .found (reached.miss known unseen) query_eq attempts_eq
  | notFound tried_eq missed_all =>
    refine .notFound ?_ ?_
    · rw [tried_eq, Selector.countP_cons_known known]
      omega
    · rw [Selector.waits_cons_known known]
      exact .cons (.wait unseen) missed_all
  | cancelled reached query_eq unanswered =>
    exact .cancelled (reached.miss known unseen) query_eq unanswered

/-- **The course of a search**, by induction on the candidates. -/
theorem searched_of_yields
    (h : Yields (Attempt.resolveFrom primary fallback candidates position made).run t r) :
    Searched primary fallback candidates position made t r := by
  induction candidates generalizing position made t with
  | nil =>
    obtain ⟨rfl, rfl⟩ := Attempt.yields_run_pure.1 h
    exact .notFound rfl .nil
  | cons c candidates ih =>
    rw [Attempt.resolveFrom] at h
    cases known : c.query? with
    | none =>
      simp only [known] at h
      exact (ih h).pass known
    | some query =>
      simp only [known] at h
      rcases Attempt.yields_guard_bind h with ⟨rfl | rfl, rfl⟩ | ⟨answer, u, rfl, hu⟩
      · exact .cancelled reaches_first known (.inl rfl)
      · exact .cancelled reaches_first known (.inr rfl)
      · by_cases seen : answer = .ok true
        · subst seen
          obtain ⟨rfl, rfl⟩ := Attempt.yields_run_pure.1 hu
          exact @Searched.found _ _ _ _ _ [] made ⟨position, c, query, made + 1⟩ reaches_first known rfl
        · refine (ih ?_).miss known seen
          split at hu
          · exact absurd rfl seen
          · exact hu

end

/-! ## Sightings -/

/-- **None of some candidates became visible**: all of known kinds were waited for, each once and in
order, and none was seen. -/
structure Transcript.Unseen (candidates : List Selector) (t : Transcript) : Prop where
  sought_eq : t.filterMap Answered.sought? = candidates.filterMap Selector.query?
  not_sights : ∀ x ∈ t, ¬ x.Sights

/-- Requests that wait for no candidate. -/
def Request.SeeksNone (q : Request) : Prop :=
  ∀ query timeout, q ≠ .guarded (.waitVisible query timeout)

namespace Transcript

variable {t u : Transcript} {candidates others : List Selector}

/-- Where no candidate is waited for, none of no candidates became visible. -/
theorem Within.unseen (h : t.Within Request.SeeksNone) : t.Unseen [] := by
  have blind : ∀ x : Answered, x.request.SeeksNone → x.sought? = none ∧ ¬ x.Sights := by
    rintro ⟨q, a⟩ none
    cases q with
    | guarded c =>
      cases c with
      | waitVisible query timeout => exact absurd rfl (none query timeout)
      | _ => exact ⟨rfl, fun h => h⟩
    | _ => exact ⟨rfl, fun h => h⟩
  exact ⟨List.filterMap_eq_nil_iff.2 fun x hx => (blind x (h x hx)).1,
    fun x hx => (blind x (h x hx)).2⟩

/-- Searches follow one another. -/
theorem Unseen.append (h : t.Unseen candidates) (h' : u.Unseen others) :
    Unseen (candidates ++ others) (t ++ u) where
  sought_eq := by rw [List.filterMap_append, List.filterMap_append, h.sought_eq, h'.sought_eq]
  not_sights := List.forall_mem_append.2 ⟨h.not_sights, h'.not_sights⟩

end Transcript

/-- **Waits that missed** saw none of their candidates. -/
theorem unseen_of_misses {primary fallback made : Nat} {candidates : List Selector} {t : Transcript}
    (h : List.Forall₂ Answered.Misses (Selector.waits primary fallback made candidates) t) :
    t.Unseen candidates := by
  refine ⟨?_, fun x mem => ?_⟩
  · induction candidates generalizing made t with
    | nil =>
      cases h
      rfl
    | cons c candidates ih =>
      cases known : c.query? with
      | none =>
        rw [Selector.waits_cons_unknown known] at h
        rw [List.filterMap_cons_none known]
        exact ih h
      | some query =>
        rw [Selector.waits_cons_known known] at h
        rw [List.filterMap_cons_some known]
        cases h with
        | cons first others =>
          cases first
          exact congrArg (query :: ·) (ih others)
  · obtain ⟨c, missed⟩ := Answered.exists_misses h x mem
    exact missed.quiet.1

/-! ## The element of a step -/

/-- **What a search for an element asks for, and what it hands back.** -/
structure Resolves (primary fallback : Nat) (candidates : List Selector) (t : Transcript)
    (result : Except StepError Resolution) : Prop where
  /-- All it does is to wait for the candidates of known types, in order, with their timeouts. -/
  asked : t.requests <+: (Selector.waits primary fallback 0 candidates).map .guarded
  /-- It goes on only from waits that are answered without a sighting. -/
  missed : ∀ x ∈ t.dropLast, ∃ c, Answered.Misses c x
  /-- It finds a candidate exactly if one is seen. -/
  found_iff : (∃ located, result = .ok (.found located)) ↔ ∃ x ∈ t, x.Sights
  /-- What it finds is the candidate of its last wait, with its place in the whole list and the
  number of the candidates waited for. -/
  found : ∀ located, result = .ok (.found located) →
    candidates[located.position]? = some located.selector ∧
    located.selector.query? = some located.query ∧
    located.attempts = (candidates.take (located.position + 1)).countP Selector.isKnown ∧
    t.requests = (Selector.waits primary fallback 0
      (candidates.take (located.position + 1))).map .guarded ∧
    ∃ x, t.getLast? = some x ∧ x.Sights
  /-- If it finds none it has waited for all of them. -/
  notFound : ∀ attempts, result = .ok (.notFound attempts) →
    attempts = candidates.countP Selector.isKnown ∧
    t.requests = (Selector.waits primary fallback 0 candidates).map .guarded ∧
    ∀ x ∈ t, ∃ c, Answered.Misses c x
  /-- It breaks off exactly if a wait shows that the run is cancelled. -/
  error_iff : (∃ e, result = .error e) ↔ t.ShowsCancellation
  /-- It breaks off as cancelled. -/
  cancelled : ∀ e, result = .error e → e = .cancelled

section

variable {primary fallback place waited : Nat} {candidates : List Selector} {selector : Selector}
  {query : String} {missed t : Transcript} {result : Except StepError Resolution}

/-- The waits for the first of some candidates come first. -/
theorem Selector.waits_take_prefix (n : Nat) :
    waits primary fallback 0 (candidates.take n) <+: waits primary fallback 0 candidates := by
  have whole := @waits_append primary fallback 0 (candidates.take n) (candidates.drop n)
  rw [List.take_append_drop] at whole
  exact ⟨_, whole.symm⟩

/-- **The candidate at which a search arrives**: its place, and the waits up to it. -/
theorem Reaches.spec (reached : Reaches primary fallback candidates 0 0 missed selector place waited)
    (query_eq : selector.query? = some query) (ending : Guarded (Except PageFault Bool)) :
    candidates[place]? = some selector ∧
    waited + 1 = (candidates.take (place + 1)).countP Selector.isKnown ∧
    Transcript.requests (missed ++ [⟨.guarded (.waitVisible query
      (Selector.timeout primary fallback waited)), ending⟩]) =
        (Selector.waits primary fallback 0 (candidates.take (place + 1))).map .guarded ∧
    ∀ x ∈ missed, ∃ c, Answered.Misses c x := by
  obtain ⟨earlier, later, rfl, rfl, rfl, before⟩ := reached
  have upTo : (earlier ++ selector :: later).take (0 + earlier.length + 1) =
      earlier ++ [selector] := by
    rw [Nat.zero_add, List.take_append, List.take_of_length_le (Nat.le_succ _)]
    simp
  have waited : [selector].countP Selector.isKnown = 1 := Selector.countP_cons_known query_eq []
  refine ⟨by simp, ?_, ?_, Answered.exists_misses before⟩
  · rw [upTo, List.countP_append, waited, Nat.zero_add]
  · have requests := Answered.requests_of_misses before
    rw [Transcript.requests] at requests
    rw [upTo, Selector.waits_append, Selector.waits_cons_known query_eq, List.map_append, ← requests,
      Transcript.requests, List.map_append]
    rfl

/-- All those before it were missed. -/
theorem Reaches.unseen
    (reached : Reaches primary fallback candidates 0 0 missed selector place waited) :
    missed.Unseen (candidates.take place) := by
  obtain ⟨earlier, later, rfl, rfl, rfl, before⟩ := reached
  rw [Nat.zero_add, List.take_left]
  exact unseen_of_misses before

/-- Behind waits that missed only the last one can be a sighting. -/
theorem exists_sights_concat (before : ∀ x ∈ missed, ∃ c, Answered.Misses c x) (last : Answered) :
    (∃ x ∈ missed ++ [last], x.Sights) ↔ last.Sights := by
  constructor
  · rintro ⟨x, mem, sights⟩
    rcases List.mem_append.1 mem with mem | mem
    · obtain ⟨c, misses⟩ := before x mem
      exact absurd sights misses.quiet.1
    · exact List.mem_singleton.1 mem ▸ sights
  · exact fun sights => ⟨last, List.mem_append_right _ List.mem_cons_self, sights⟩

/-- Waits that missed do not show that the run is cancelled. -/
theorem not_showsCancellation_of_misses (before : ∀ x ∈ missed, ∃ c, Answered.Misses c x) :
    ¬ missed.ShowsCancellation := by
  rintro ⟨x, mem, shows⟩
  obtain ⟨c, misses⟩ := before x mem
  exact misses.quiet.2 shows

/-- **A search that goes its course** settles on the first candidate seen. -/
theorem Searched.resolves (h : Searched primary fallback candidates 0 0 t result) :
    Resolves primary fallback candidates t result := by
  cases h with
  | found reached query_eq attempts_eq =>
    obtain ⟨placed, counted, asked, before⟩ := reached.spec query_eq (.answered (.ok true))
    refine ⟨?_, ?_, ?_, ?_, by rintro _ ⟨⟩, ?_, by rintro _ ⟨⟩⟩
    · rw [asked]
      exact (Selector.waits_take_prefix _).map _
    · rwa [List.dropLast_concat]
    · exact iff_of_true ⟨_, rfl⟩ ((exists_sights_concat before _).2 rfl)
    · intro located same
      obtain rfl := Resolution.found.inj (Except.ok.inj same)
      exact ⟨placed, query_eq, attempts_eq.trans counted, asked, _, List.getLast?_concat, rfl⟩
    · refine iff_of_false (by rintro ⟨_, ⟨⟩⟩) ?_
      simp [not_showsCancellation_of_misses before, Answered.ShowsCancellation]
  | notFound tried_eq missed_all =>
    have requests := Answered.requests_of_misses missed_all
    have before := Answered.exists_misses missed_all
    refine ⟨?_, ?_, ?_, by rintro _ ⟨⟩, ?_, ?_, by rintro _ ⟨⟩⟩
    · exact ⟨[], (List.append_nil _).trans requests⟩
    · exact fun x mem => before x (List.dropLast_subset t mem)
    · refine iff_of_false (by rintro ⟨_, ⟨⟩⟩) ?_
      rintro ⟨x, mem, sights⟩
      exact (unseen_of_misses missed_all).not_sights x mem sights
    · intro attempts same
      obtain rfl := Resolution.notFound.inj (Except.ok.inj same)
      exact ⟨tried_eq.trans (Nat.zero_add _), requests, before⟩
    · exact iff_of_false (by rintro ⟨_, ⟨⟩⟩) (not_showsCancellation_of_misses before)
  | @cancelled _ _ _ _ _ ending reached query_eq unanswered =>
    obtain ⟨placed, counted, asked, before⟩ := reached.spec query_eq ending
    refine ⟨?_, ?_, ?_, by rintro _ ⟨⟩, by rintro _ ⟨⟩, ?_, ?_⟩
    · rw [asked]
      exact (Selector.waits_take_prefix _).map _
    · rwa [List.dropLast_concat]
    · rw [exists_sights_concat before]
      refine iff_of_false (by rintro ⟨_, ⟨⟩⟩) fun sights => ?_
      obtain rfl : ending = .answered (.ok true) := sights
      simp at unanswered
    · exact iff_of_true ⟨_, rfl⟩ ⟨_, List.mem_append_right _ List.mem_cons_self, unanswered⟩
    · exact fun e same => (Except.error.inj same).symm

end

/-- **A search settles on the first candidate seen**, in every world: whatever the page answers, and
whenever the run is cancelled. -/
theorem resolve_first_visible {σ : Type} (w : World σ) (primary fallback : Nat)
    (candidates : List Selector) (s : σ) :
    Resolves primary fallback candidates
      (w.transcript (Attempt.resolve primary fallback candidates).run s)
      (w.run (Attempt.resolve primary fallback candidates).run s).1 :=
  (searched_of_yields (w.yields _ s)).resolves

end Playback
