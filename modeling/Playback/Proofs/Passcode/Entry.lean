import Playback.Proofs.Handler.Passcode
import Playback.Proofs.Routine.Surroundings

/-!
# What a passcode step types

Only a code that answers the request is typed, and then all of it.

* `OffersCode` — **a code was offered that answers the request**, as of the time right after the
  click;
* `Types` — how far a code is typed;
* `EntersCode`, `passcode_entersCode` — **what a passcode step types, and after what**, in all
  surroundings.
-/

namespace Playback

open Routine

/-! ## What is typed -/

namespace Deed

/-- A deed that fills a field. -/
def isFill : Deed → Bool
  | fills .. => true
  | _ => false

/-- A deed that looks a code up. -/
def isLookUp : Deed → Bool
  | looksUp .. => true
  | _ => false

/-- **The instant that a deed tells**, if it does, is representable. -/
def isDated : Deed → Bool
  | reads instant => instant.isRepresentable
  | looksUp _ _ (some c) => c.createdAt.isRepresentable
  | _ => true

end Deed

/-- **A code was offered** that answers a request made when the time of day was read. -/
def OffersCode (window : Nat) (deeds : List Deed) (c : IssuedCode) : Prop :=
  ∃ reference channel username, .reads reference ∈ deeds ∧
    .looksUp channel username (some c) ∈ deeds ∧ c.Answers reference window

/-- **A code is typed as far as it goes**: to its last field, to the first field that fails, or to a
cancellation. -/
inductive Types (all : List (String × String)) (cancelled : Prop) : List Deed → Prop where
  | whole : Types all cancelled (all.map (.fill true))
  | failed (before : List (String × String)) {after : List (String × String)}
      {x : String × String} (eq : all = before ++ x :: after) :
      Types all cancelled (before.map (.fill true) ++ [.fill false x])
  | cancelled (before : List (String × String)) {after : List (String × String)}
      (eq : all = before ++ after) (cancels : cancelled) :
      Types all cancelled (before.map (.fill true))

/-- **What a passcode step types**, along its requests with their answers. -/
structure EntersCode (config : PasscodeConfig) (data : TestData) (step : StepRecord)
    (t : Transcript) (cancelled : Prop) (result : Except StepError ActionOutcome) : Prop where
  /-- The time of day is read right after the first `id` selector was clicked, and only then. -/
  read_after_click : ∀ {before after : Transcript} {reference},
    t = before ++ ⟨.now, reference⟩ :: after →
    (∃ earlier control query, step.firstOfKind? .id = some control ∧
      control.query? = some query ∧
      before = earlier ++ [⟨.guarded (.click query), .answered (.ok ())⟩]) ∧
    (∀ r, .reads r ∉ before.deeds) ∧ ∀ r, .reads r ∉ after.deeds
  /-- It is read whenever a click succeeds. -/
  read_of_click : ∀ {query}, .clicks query true ∈ t.deeds → ∃ reference, .reads reference ∈ t.deeds
  /-- A field is filled only after a look-up offered a code that answers the request. -/
  fill_after_offer : ∀ {before query value succeeds after},
    t.deeds = before ++ .fills query value succeeds :: after →
    ∃ c, OffersCode config.freshnessWindowMs before c
  /-- If such a code is offered, the fields that are filled are those of its characters. -/
  typed : ∀ {c}, OffersCode config.freshnessWindowMs t.deeds c →
    ∃ control, step.firstOfKind? .id = some control ∧
      Types (codeFills (digitFieldBase control.locator) c.code.toList 0) cancelled
        (t.deeds.filter Deed.isFill)
  /-- The step is completed exactly if all of them are filled with success. -/
  completed_iff : result = .ok .completed ↔
    ∃ c control, OffersCode config.freshnessWindowMs t.deeds c ∧
      step.firstOfKind? .id = some control ∧
      t.deeds.filter Deed.isFill =
        (codeFills (digitFieldBase control.locator) c.code.toList 0).map (.fill true)
  /-- If no such code is offered, so many look-ups are made for one user; no field is filled, and
  the step fails. -/
  fruitless : ∀ {query username}, .clicks query true ∈ t.deeds →
    step.username? data = some username →
    (∀ c, ¬ OffersCode config.freshnessWindowMs t.deeds c) → ¬ cancelled →
    (t.deeds.filter Deed.isLookUp).length =
        max config.acquisitionRetries.toNat 1 * config.attempts.toNat ∧
      (∀ {channel user offer}, .looksUp channel user offer ∈ t.deeds → user = username) ∧
      t.deeds.filter Deed.isFill = [] ∧ ∃ error, result = .ok (.failed error)

/-! ## Lists of deeds -/

/-- What is not in the first part of a list comes after it. -/
theorem exists_append_of_not_mem {α : Type} {xs ys before after : List α} {y : α}
    (eq : xs ++ ys = before ++ y :: after) (absent : y ∉ xs) :
    ∃ between, before = xs ++ between ∧ ys = between ++ y :: after := by
  rcases List.append_eq_append_iff.1 eq with ⟨between, rfl, rest⟩ | ⟨between, rfl, rest⟩
  · exact ⟨between, rfl, rest⟩
  · cases between with
    | nil => exact ⟨[], by simp, by simpa using rest.symm⟩
    | cons x between =>
      obtain ⟨rfl, -⟩ := List.cons.inj rest
      exact absurd (List.mem_append_right _ List.mem_cons_self) absent

namespace Typed

variable {all : List (String × String)} {deeds : List Deed}
  {ending : Except StepError (Option String)}

/-- To type is to fill fields. -/
theorem isFill (h : Typed all deeds ending) : ∀ d ∈ deeds, d.isFill = true := by
  have filled : ∀ (succeeds : Bool) (xs : List (String × String)),
      ∀ d ∈ xs.map (Deed.fill succeeds), d.isFill = true := by
    intro succeeds xs d mem
    obtain ⟨x, -, rfl⟩ := List.mem_map.1 mem
    rfl
  have last : ∀ (x : String × String), ∀ d ∈ [Deed.fill false x], d.isFill = true := by
    intro x d mem
    rw [List.mem_singleton.1 mem]
    rfl
  cases h with
  | whole => exact filled true all
  | failed before eq => exact List.forall_mem_append.2 ⟨filled true before, last _⟩
  | refused before eq => exact filled true before
  | interrupted before eq => exact List.forall_mem_append.2 ⟨filled true before, last _⟩

/-- A code is typed as far as it goes. -/
theorem types {cancelled : Prop} (h : Typed all deeds ending)
    (shown : ending = .error .cancelled → cancelled) : Types all cancelled deeds := by
  cases h with
  | whole => exact .whole
  | failed before eq => exact .failed before eq
  | refused before eq => exact .cancelled before eq (shown rfl)
  | interrupted before eq => exact .failed before eq

/-- **The typing comes to its end** exactly if all fields are filled with success. -/
theorem ending_eq_iff (h : Typed all deeds ending) :
    ending = .ok none ↔ deeds = all.map (.fill true) := by
  have unfilled : ∀ (before : List (String × String)) (x : String × String),
      before.map (.fill true) ++ [.fill false x] ≠ all.map (Deed.fill true) := by
    intro before x same
    have mem : Deed.fill false x ∈ all.map (Deed.fill true) := by simp [← same]
    obtain ⟨y, -, eq⟩ := List.mem_map.1 mem
    simp [Deed.fill] at eq
  cases h with
  | whole => exact iff_of_true rfl rfl
  | failed before eq => exact iff_of_false nofun (unfilled before _)
  | interrupted before eq => exact iff_of_false nofun (unfilled before _)
  | @refused before after x eq =>
    refine iff_of_false nofun fun same => ?_
    have lengths := congrArg List.length same
    simp [eq] at lengths

end Typed

/-! ## After the click -/

/-- A stale look-up looks up, for its user, and fills nothing. -/
theorem Passcode.IsStale.isLookUp {policy : Passcode.Policy} {username : String}
    {reference : Instant} {d : Deed} (h : Passcode.IsStale policy username reference d) :
    d.isLookUp = true ∧ d.isFill = false ∧
      ∀ {channel user offer}, d = .looksUp channel user offer → user = username := by
  obtain ⟨channel, offer, rfl, -⟩ := h
  exact ⟨rfl, rfl, fun eq => (Deed.looksUp.inj eq).2.1.symm⟩

/-- A stale look-up offers no fresh code. -/
theorem Passcode.IsStale.isFresh {policy : Passcode.Policy} {username user : String}
    {reference : Instant} {channel : Channel} {c : IssuedCode}
    (h : Passcode.IsStale policy username reference (.looksUp channel user (some c))) :
    c.isFresh reference policy.windowMs = false := by
  obtain ⟨_, offer, eq, stale⟩ := h
  exact stale c (Deed.looksUp.inj eq).2.2.symm

namespace AfterClick

variable {ctx : StepContext} {step : StepRecord} {locator : String} {reference : Instant}
  {deeds : List Deed} {r : Except StepError ActionOutcome}

/-- After the click codes are looked up and fields are filled, and nothing else. -/
theorem isLookUp_or_isFill (h : AfterClick ctx step locator reference deeds r) :
    ∀ d ∈ deeds, d.isLookUp = true ∨ d.isFill = true := by
  cases h with
  | nobody user => exact List.forall_mem_nil _
  | fruitless user stale => exact fun d mem => .inl (stale d mem).isLookUp.1
  | givenUp user stale => exact fun d mem => .inl (stale d mem).isLookUp.1
  | typed user stale fresh typed =>
    refine List.forall_mem_append.2 ⟨fun d mem => .inl (stale d mem).isLookUp.1, ?_⟩
    exact List.forall_mem_cons.2 ⟨.inl rfl, fun d mem => .inr (typed.isFill d mem)⟩

/-- **A fresh code that is offered** is typed. -/
theorem typed_of_isFresh (h : AfterClick ctx step locator reference deeds r) {channel : Channel}
    {username : String} {c : IssuedCode} (mem : .looksUp channel username (some c) ∈ deeds)
    (fresh : c.isFresh reference ctx.config.passcode.freshnessWindowMs = true) :
    ∃ ending, r = resultOfTyping ending ∧
      Typed (codeFills (digitFieldBase locator) c.code.toList 0) (deeds.filter Deed.isFill)
        ending := by
  cases h with
  | nobody user => exact nomatch mem
  | fruitless user stale => exact nomatch fresh.symm.trans (stale _ mem).isFresh
  | givenUp user stale => exact nomatch fresh.symm.trans (stale _ mem).isFresh
  | @typed user channel' c' before typing ending _ stale fresh' typed =>
    have filled : typing.filter Deed.isFill = typing := List.filter_eq_self.2 typed.isFill
    have unfilled : before.filter Deed.isFill = [] :=
      List.filter_eq_nil_iff.2 fun d mem => by simp [(stale d mem).isLookUp.2.1]
    refine ⟨ending, rfl, ?_⟩
    rw [List.filter_append, unfilled, List.filter_cons_of_neg Bool.false_ne_true, filled]
    rcases List.mem_append.1 mem with mem | mem
    · exact nomatch fresh.symm.trans (stale _ mem).isFresh
    rcases List.mem_cons.1 mem with eq | mem
    · obtain ⟨-, -, eq⟩ := Deed.looksUp.inj eq
      rwa [Option.some.inj eq]
    · exact nomatch typed.isFill _ mem

/-- **A field is filled** after a look-up that offered a fresh code. -/
theorem fresh_of_fill (h : AfterClick ctx step locator reference deeds r) {before after : List Deed}
    {query value : String} {succeeds : Bool}
    (eq : deeds = before ++ .fills query value succeeds :: after) :
    ∃ channel username c, .looksUp channel username (some c) ∈ before ∧
      c.isFresh reference ctx.config.passcode.freshnessWindowMs = true := by
  have mem : .fills query value succeeds ∈ deeds := by simp [eq]
  cases h with
  | nobody user => exact nomatch mem
  | fruitless user stale => exact nomatch (stale _ mem).isLookUp.1
  | givenUp user stale => exact nomatch (stale _ mem).isLookUp.1
  | @typed user channel c first typing ending _ stale fresh typed =>
    have absent : .fills query value succeeds ∉ first ++ [.looksUp channel user (some c)] := by
      rw [List.mem_append, List.mem_singleton, not_or]
      exact ⟨fun mem => (nomatch (stale _ mem).isLookUp.1), nofun⟩
    rw [List.append_cons] at eq
    obtain ⟨between, rfl, -⟩ := exists_append_of_not_mem eq absent
    exact ⟨channel, user, c, by simp, fresh⟩

/-- **A step is completed** only after it has typed a fresh code. -/
theorem typed_of_completed (h : AfterClick ctx step locator reference deeds (.ok .completed)) :
    ∃ channel username c, .looksUp channel username (some c) ∈ deeds ∧
      c.isFresh reference ctx.config.passcode.freshnessWindowMs = true := by
  generalize result_eq : Except.ok ActionOutcome.completed = r at h
  cases h with
  | nobody user => exact nomatch result_eq
  | fruitless user stale => exact nomatch result_eq
  | givenUp user stale => exact nomatch result_eq
  | @typed user channel c before typing ending _ stale fresh typed =>
    exact ⟨channel, user, c, by simp, fresh⟩

/-- **Without a fresh code** all look-ups are made, for one user, and the step fails; if it is not
cancelled. -/
theorem fruitless_of_stale (h : AfterClick ctx step locator reference deeds r) {username : String}
    (user : step.username? ctx.data = some username)
    (stale : ∀ {channel user c}, .looksUp channel user (some c) ∈ deeds →
      c.isFresh reference ctx.config.passcode.freshnessWindowMs = false)
    (calm : r ≠ .error .cancelled) :
    (deeds.filter Deed.isLookUp).length =
        max ctx.config.passcode.acquisitionRetries.toNat 1 * ctx.config.passcode.attempts.toNat ∧
      (∀ {channel user offer}, .looksUp channel user offer ∈ deeds → user = username) ∧
      deeds.filter Deed.isFill = [] ∧ ∃ error, r = .ok (.failed error) := by
  cases h with
  | nobody nobody => exact nomatch nobody.symm.trans user
  | givenUp user' stale' => exact absurd rfl calm
  | @typed user' channel c before typing ending _ stale' fresh typed =>
    have offers : .looksUp channel user' (some c) ∈ before ++
        Deed.looksUp channel user' (some c) :: typing :=
      List.mem_append_right _ List.mem_cons_self
    exact nomatch fresh.symm.trans (stale offers)
  | @fruitless user' error _ known stale' length_eq =>
    obtain rfl := Option.some.inj (user.symm.trans known)
    refine ⟨?_, fun mem => (stale' _ mem).isLookUp.2.2 rfl, ?_, error, rfl⟩
    · rw [List.filter_eq_self.2 fun d mem => (stale' d mem).isLookUp.1, length_eq]
    · exact List.filter_eq_nil_iff.2 fun d mem => by simp [(stale' d mem).isLookUp.2.1]

end AfterClick

/-- A step is completed if its typing came to its end. -/
theorem resultOfTyping_eq_completed {ending : Except StepError (Option String)} :
    resultOfTyping ending = .ok .completed ↔ ending = .ok none := by
  match ending with
  | .ok none => exact iff_of_true rfl rfl
  | .ok (some message) => exact iff_of_false nofun nofun
  | .error e => exact iff_of_false nofun nofun

/-- A reading of the time of day shows. -/
theorem reads_mem_deeds {t : Transcript} {reference : Instant} (mem : ⟨.now, reference⟩ ∈ t) :
    .reads reference ∈ t.deeds :=
  List.mem_filterMap.2 ⟨_, mem, rfl⟩

/-! ## The whole step -/

section

variable {ctx : StepContext} {step : StepRecord} {query : String} {reference : Instant}
  {later : List Deed}

/-- **Codes that answer are fresh codes**, of those that are looked up after the click. -/
theorem offersCode_iff {window : Nat} {c : IssuedCode}
    (after : ∀ d ∈ later, d.isLookUp = true ∨ d.isFill = true)
    (dated : ∀ d ∈ .reads reference :: later, Deed.isDated d = true) :
    OffersCode window (.clicks query true :: .reads reference :: later) c ↔
      ∃ channel username, .looksUp channel username (some c) ∈ later ∧
        c.isFresh reference window = true := by
  have asked : reference.isRepresentable = true := dated _ List.mem_cons_self
  have issued : ∀ {channel username}, .looksUp channel username (some c) ∈ later →
      c.createdAt.isRepresentable = true := fun mem => dated _ (List.mem_cons_of_mem _ mem)
  constructor
  · rintro ⟨r, channel, username, read, offered, answers⟩
    have looked : .looksUp channel username (some c) ∈ later := by simpa using offered
    have elsewhere : .reads r ∉ later := fun mem => (after _ mem).elim nofun nofun
    obtain rfl : r = reference := by simpa [elsewhere] using read
    exact ⟨channel, username, looked,
      (IssuedCode.isFresh_iff_answers (issued looked) asked).2 answers⟩
  · rintro ⟨channel, username, offered, fresh⟩
    exact ⟨reference, channel, username, by simp, by simp [offered],
      (IssuedCode.isFresh_iff_answers (issued offered) asked).1 fresh⟩

/-- A step whose control was not clicked types nothing. -/
theorem entersCode_of_unclicked {config : PasscodeConfig} {data : TestData} {t : Transcript}
    {cancelled : Prop} {r : Except StepError ActionOutcome}
    (missed : ∀ d ∈ t.deeds, ∃ query, d = .clicks query false) (broken : r ≠ .ok .completed) :
    EntersCode config data step t cancelled r := by
  have unread : ∀ reference, .reads reference ∉ t.deeds := fun reference mem => by
    obtain ⟨query, ⟨⟩⟩ := missed _ mem
  have unclicked : ∀ query, .clicks query true ∉ t.deeds := fun query mem => by
    obtain ⟨query', ⟨⟩⟩ := missed _ mem
  have unoffered : ∀ c, ¬ OffersCode config.freshnessWindowMs t.deeds c := by
    rintro c ⟨reference, _, _, read, _⟩
    exact unread reference read
  constructor
  · rintro before after reference rfl
    exact absurd (by simp [Answered.deed?]) (unread reference)
  · exact fun mem => absurd mem (unclicked _)
  · intro before query value succeeds after eq
    obtain ⟨query', ⟨⟩⟩ := missed (.fills query value succeeds) (by simp [eq])
  · exact fun offers => absurd offers (unoffered _)
  · refine iff_of_false broken ?_
    rintro ⟨c, _, offers, _⟩
    exact unoffered c offers
  · exact fun mem => absurd mem (unclicked _)

/-- **The one reading of the time of day** is the one right after the click. -/
theorem eq_of_read {before after before' after' : Transcript} {reference' : Instant}
    (idle : before.deeds = []) (unread : ∀ r, .reads r ∉ after.deeds)
    (eq : before ++ ⟨.guarded (.click query), .answered (.ok ())⟩ :: ⟨.now, reference⟩ :: after =
      before' ++ ⟨.now, reference'⟩ :: after') :
    before' = before ++ [⟨.guarded (.click query), .answered (.ok ())⟩] ∧
      reference' = reference ∧ after' = after := by
  have absent : ⟨.now, reference'⟩ ∉
      before ++ [⟨.guarded (.click query), .answered (.ok ())⟩] := by
    rw [List.mem_append, List.mem_singleton, not_or]
    refine ⟨fun mem => List.not_mem_nil (idle ▸ reads_mem_deeds mem), fun same => ?_⟩
    cases congrArg Answered.request same
  rw [List.append_cons] at eq
  obtain ⟨between, rfl, rest_eq⟩ := exists_append_of_not_mem eq absent
  cases between with
  | nil =>
    obtain ⟨same, rfl⟩ := List.cons.inj rest_eq
    cases same
    exact ⟨List.append_nil _, rfl, rfl⟩
  | cons x between =>
    -- a reading that comes later is none
    obtain ⟨-, rfl⟩ := List.cons.inj rest_eq
    exact absurd (reads_mem_deeds (List.mem_append_right _ List.mem_cons_self)) (unread reference')

/-- **What is typed is of a code that answers**, which was looked up before it. -/
theorem AfterClick.offersCode_of_fill {t : Transcript} {locator : String} {first last : List Deed}
    {field value : String} {succeeds : Bool} {r : Except StepError ActionOutcome}
    (rest : AfterClick ctx step locator reference t.deeds r)
    (dated : ∀ d ∈ .reads reference :: t.deeds, Deed.isDated d = true)
    (eq : .clicks query true :: .reads reference :: t.deeds =
      first ++ .fills field value succeeds :: last) :
    ∃ c, OffersCode ctx.config.passcode.freshnessWindowMs first c := by
  have absent : .fills field value succeeds ∉ [Deed.clicks query true, Deed.reads reference] := by
    simp
  obtain ⟨between, rfl, rest_eq⟩ := exists_append_of_not_mem eq absent
  have later_eq : t.deeds = between ++ .fills field value succeeds :: last := rest_eq
  obtain ⟨channel, username, c, mem, fresh⟩ := rest.fresh_of_fill later_eq
  have part : ∀ d ∈ between, d ∈ t.deeds := fun d mem =>
    later_eq.symm ▸ List.mem_append_left _ mem
  have dated' : ∀ d ∈ .reads reference :: between, Deed.isDated d = true := fun d mem =>
    dated d (List.mem_cons.2 ((List.mem_cons.1 mem).imp_right (part d)))
  exact ⟨c, (offersCode_iff (fun d mem => rest.isLookUp_or_isFill d (part d mem)) dated').2
    ⟨channel, username, mem, fresh⟩⟩

/-- **A step whose control was clicked** types a code only if it is fresh, and then all of it. -/
theorem entersCode_of_clicked {before after : Transcript} {cancelled : Prop}
    {r : Except StepError ActionOutcome} {control : Selector}
    (control_eq : step.firstOfKind? .id = some control) (query_eq : control.query? = some query)
    (idle : before.deeds = [])
    (rest : AfterClick ctx step control.locator reference after.deeds r)
    (dated : ∀ d ∈ .reads reference :: after.deeds, Deed.isDated d = true)
    (shown : r = .error .cancelled → cancelled) :
    EntersCode ctx.config.passcode ctx.data step
      (before ++ ⟨.guarded (.click query), .answered (.ok ())⟩ :: ⟨.now, reference⟩ :: after)
      cancelled r := by
  have kinds := rest.isLookUp_or_isFill
  have deeds_eq : Transcript.deeds
      (before ++ ⟨.guarded (.click query), .answered (.ok ())⟩ :: ⟨.now, reference⟩ :: after) =
        .clicks query true :: .reads reference :: after.deeds := by
    simp [idle, Answered.deed?, Deed.ofCall?, Deed.succeeded]
  have unread : ∀ r, .reads r ∉ after.deeds := fun r mem => by
    rcases kinds _ mem with kind | kind <;> cases kind
  constructor
  · intro before' after' reference' eq
    obtain ⟨rfl, rfl, rfl⟩ := eq_of_read idle unread eq
    refine ⟨⟨before, control, query, control_eq, query_eq, rfl⟩, fun r mem => ?_, unread⟩
    simp [idle, Answered.deed?, Deed.ofCall?] at mem
  · exact fun _ => ⟨reference, by simp [deeds_eq]⟩
  · intro first field value succeeds last eq
    rw [deeds_eq] at eq
    exact rest.offersCode_of_fill dated eq
  · intro c offers
    rw [deeds_eq, offersCode_iff kinds dated] at offers
    obtain ⟨channel, username, mem, fresh⟩ := offers
    obtain ⟨ending, eq, typed⟩ := rest.typed_of_isFresh mem fresh
    refine ⟨control, control_eq, ?_⟩
    rw [deeds_eq]
    refine typed.types fun broken => shown ?_
    rw [eq, broken]
    rfl
  · rw [deeds_eq]
    constructor
    · rintro rfl
      obtain ⟨channel, username, c, mem, fresh⟩ := rest.typed_of_completed
      obtain ⟨ending, eq, typed⟩ := rest.typed_of_isFresh mem fresh
      refine ⟨c, control, (offersCode_iff kinds dated).2 ⟨channel, username, mem, fresh⟩,
        control_eq, typed.ending_eq_iff.1 (resultOfTyping_eq_completed.1 eq.symm)⟩
    · rintro ⟨c, control', offers, control_eq', filled⟩
      obtain rfl := Option.some.inj (control_eq.symm.trans control_eq')
      obtain ⟨channel, username, mem, fresh⟩ := (offersCode_iff kinds dated).1 offers
      obtain ⟨ending, rfl, typed⟩ := rest.typed_of_isFresh mem fresh
      rw [typed.ending_eq_iff.2 filled]
      rfl
  · intro query' username _ user unoffered calm
    rw [deeds_eq] at unoffered ⊢
    have stale : ∀ {channel user c}, .looksUp channel user (some c) ∈ after.deeds →
        c.isFresh reference ctx.config.passcode.freshnessWindowMs = false := by
      intro channel user c mem
      refine Bool.eq_false_iff.2 fun fresh => unoffered c ?_
      exact (offersCode_iff kinds dated).2 ⟨channel, user, mem, fresh⟩
    obtain ⟨count, same, unfilled, failed⟩ := rest.fruitless_of_stale user stale
      fun broken => calm (shown broken)
    refine ⟨count, fun {channel user offer} mem => ?_, unfilled, failed⟩
    have looked : .looksUp channel user offer ∈ after.deeds := by simpa using mem
    exact same looked

end

/-- A handler breaks off as cancelled only if the token is cancelled. -/
theorem cancelled_of_handler {σ : Type} (e : Surroundings σ) (a : Action) (ctx : StepContext)
    (step : StepRecord) (s : σ)
    (broken : (e.world.run (a.handler ctx step).run s).1 = .error .cancelled) :
    e.cancelled (e.world.run (a.handler ctx step).run s).2 = true := by
  have yields := e.world.yields (a.handler ctx step).run s
  rw [broken] at yields
  obtain ⟨started, u, t_eq, ending⟩ := carries_handler a ctx step _ _ yields
  refine e.cancelled_of_transcript ?_
  rw [t_eq, Transcript.showsCancellation_cons, Transcript.showsCancellation_cons]
  cases ending with
  | broken within cancelled_iff => exact .inr (.inr (cancelled_iff.1 rfl))

/-- A page with a control and two fields, and a service that replies with an old code first and with
a new one then. -/
def codeScene : Simulation.Solo where
  scene := {
    elements := Dict.ofList [("#code0", {}), ("#code1", {})]
    replies := [{ answer := .ok (some ⟨"17", ⟨0, 0⟩⟩) }, { answer := .ok (some ⟨"42", ⟨1000, 0⟩⟩) }] }

/-- A passcode step on that page. -/
def codeStep : StepRecord := ((StepRecord.ofAction 1 .otp).withSelector .id "code0").withInput "qa"

/-- The surroundings in which it is carried out, at a time near the new code. -/
def codeSurroundings : Surroundings Simulation.Solo :=
  Simulation.surroundings { epoch := ⟨1001, 0⟩ }

end Playback
