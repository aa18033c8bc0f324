import Playback.Proofs.Server.Service

/-!
# Runs and the tokens of their sessions

A session that is opened has a token, and the run that starts in it is started with this token. The
session may be closed by its run, by its reader or by a request; whoever closes it cancels the token,
and from then on the run gets nothing more of what it asks for under the token.

* `Step.registry_cases` — what happens opens a session of a new name, closes one, or neither;
* `Step.exists_token` — **a run keeps its token** for as long as it goes on;
* `Service.Tied` — **a session and its run are tied** by the token, which `Service.Tied.onward` shows
  to stay so, and `tied_of_reaches` to be so in every state that a service reaches;
* `UsesToken`, `Service.Tied.usesToken` — **the run uses the token of its session**, whatever happens:
  it is not disturbed before the session is closed, and stopped afterwards.
-/

namespace Playback.Server

variable {setup : Setup} {engine : Engine} {time : Instant → Json} {past later : List Happening}
  {s s' s₁ s₂ : Service} {e : Happening} {entry : SessionEntry} {id : String} {x : Answered}
  {task : RunTask} {c : Call}

/-! ## One thing that happens -/

/-- **Of the registry**, what happens opens a session of a name that was not used, and starts a run
with its token; or it closes a session, or leaves the registry alone. -/
theorem Step.registry_cases (h : Step setup engine time s e s') :
    (∃ new : SessionEntry, s.tasks new.id = none ∧
      (∃ rest, s'.tasks new.id = some (.running new.token rest)) ∧
      s'.hub.registry = s.hub.registry.openSession new.id new.testCase new.startedAt) ∨
    (∃ other, s'.hub.registry = (s.hub.registry.close other).2) ∨
    s'.hub.registry = s.hub.registry := by
  cases h with
  | request new answer =>
    obtain ⟨entry, run, rfl, -, token_eq, -, rfl, rfl⟩ | ⟨-, -, rfl | ⟨other, rfl⟩⟩ :=
      Setup.respond_cases answer
    · refine .inl ⟨entry, new, ⟨engine.session run.request, ?_⟩, rfl⟩
      rw [← token_eq]
      exact Service.setTask_self
    · exact .inr (.inr rfl)
    · exact .inr (.inl ⟨other, rfl⟩)
  | @close id task => exact .inr (.inl ⟨id, rfl⟩)
  | @leave id reader => exact .inr (.inl ⟨id, rfl⟩)
  | @finish id hub reader delivered =>
    obtain ⟨feed, found, -⟩ := reader
    obtain ⟨-, -, rfl⟩ := Hub.read_eq_ended found delivered
    exact .inr (.inl ⟨id, rfl⟩)
  | read reader delivered =>
    obtain ⟨feed, rest, -, -, rfl⟩ := Hub.read_eq_message delivered
    exact .inr (.inr rfl)
  | tell | start | answer | look | hangUp => exact .inr (.inr rfl)

/-- **A run keeps its token** for as long as it goes on. -/
theorem Step.exists_token (h : Step setup engine time s e s') (before : s.tasks id = some task) :
    ∃ task', s'.tasks id = some task' ∧
      ∀ token, task'.token? = some token → task.token? = some token := by
  by_cases about : e.about? = some id
  swap
  · exact ⟨task, (h.frame about).tasks_eq.trans before, fun _ same => same⟩
  -- of what is about this session, its run makes a step itself, or it is as before
  cases h with
  | @request fresh startedAt r response hub run new answer =>
    obtain ⟨entry, run, -, -, -, rfl, -⟩ | ⟨plain, -⟩ := Setup.respond_cases answer
    · obtain rfl : fresh = id := Option.some.inj about
      cases new.symm.trans before
    · cases response with
      | stream name => exact absurd rfl (plain name)
      | bare | json => cases about
  | read | finish | leave => exact ⟨task, before, fun _ same => same⟩
  | tell going | start going | answer going | look going =>
    obtain rfl := Option.some.inj about
    obtain rfl := Option.some.inj (going.symm.trans before)
    exact ⟨_, Service.setTask_self, fun _ same => same⟩
  | hangUp | close =>
    obtain rfl := Option.some.inj about
    refine ⟨_, Service.setTask_self, fun token heeds => ?_⟩
    cases heeds

/-- **A name is used** for the first time when its session is opened, by the run that starts in it. -/
theorem Step.exists_opened (h : Step setup engine time s e s') (unused : s.tasks id = none)
    (used : s'.tasks id = some task) :
    ∃ new : SessionEntry, new.id = id ∧ (∃ rest, task = .running new.token rest) ∧
      s'.hub.registry = s.hub.registry.openSession new.id new.testCase new.startedAt := by
  by_cases about : e.about? = some id
  swap
  · cases ((h.frame about).tasks_eq.trans unused).symm.trans used
  cases h with
  | request new answer =>
    obtain ⟨entry, run, rfl, -, token_eq, -, rfl, rfl⟩ | ⟨-, rfl, -⟩ := Setup.respond_cases answer
    · by_cases own : entry.id = id
      · subst own
        obtain rfl := Option.some.inj (Service.setTask_self.symm.trans used)
        exact ⟨entry, rfl, ⟨_, by rw [token_eq]⟩, rfl⟩
      · cases ((Service.setTask_of_ne own).trans unused).symm.trans used
    · cases unused.symm.trans used
  | read | finish | leave => cases unused.symm.trans used
  | tell going | start going | answer going | look going | hangUp going | close going =>
    obtain rfl := Option.some.inj about
    cases unused.symm.trans going

/-! ## Sessions and their runs -/

/-- **A session and its run are tied** by the token of the session: the run heeds no other for as
long as it goes on, and the token is cancelled exactly if the session is not open any more. -/
structure Service.Tied (s : Service) (entry : SessionEntry) : Prop where
  heeded : ∃ task, s.tasks entry.id = some task ∧
    ∀ token, task.token? = some token → token = entry.token
  hasCancelled_iff : s.hub.registry.hasCancelled entry.token = true ↔
    s.hub.registry.get? entry.id = none

namespace Service.Tied

/-- A session that was closed has a cancelled token, and the token of one that is open is not. -/
theorem hasCancelled_eq (h : s.Tied entry) :
    s.hub.registry.hasCancelled entry.token = decide (s.hub.registry.get? entry.id = none) := by
  rw [Bool.eq_iff_iff, h.hasCancelled_iff, decide_eq_true_eq]

/-- A run that goes on heeds the token of its session. -/
theorem token_eq (h : s.Tied entry) (going : s.tasks entry.id = some task) {token : CancelToken}
    (heeds : task.token? = some token) : token = entry.token := by
  obtain ⟨task', same, each⟩ := h.heeded
  obtain rfl := Option.some.inj (same.symm.trans going)
  exact each token heeds

/-- **A session is not opened again** under its name, which is in use. -/
theorem get?_eq_none (h : s.Tied entry) (next : Step setup engine time s e s')
    (closed : s.hub.registry.get? entry.id = none) : s'.hub.registry.get? entry.id = none := by
  obtain ⟨new, unused, -, eq⟩ | ⟨other, eq⟩ | eq := next.registry_cases
  · have ne : new.id ≠ entry.id := by
      intro same
      obtain ⟨task, used, -⟩ := h.heeded
      rw [← same, unused] at used
      cases used
    rw [eq, SessionRegistry.get?_openSession_of_ne new ne]
    exact closed
  · rw [eq]
    exact get?_close_eq_none closed
  · rw [eq]
    exact closed

/-- **What happens next** leaves a session and its run tied: whoever closes the session cancels its
token, and nobody else does. -/
theorem step (h : s.Tied entry) (next : Step setup engine time s e s') : s'.Tied entry := by
  obtain ⟨task, used, heeds⟩ := h.heeded
  obtain ⟨task', used', kept⟩ := next.exists_token used
  refine ⟨⟨task', used', fun token same => heeds token (kept token same)⟩, ?_⟩
  have before := h.hasCancelled_iff
  obtain ⟨new, unused, -, eq⟩ | ⟨other, eq⟩ | eq := next.registry_cases
  · have ne : new.id ≠ entry.id := by
      intro same
      rw [← same, unused] at used
      cases used
    rw [eq, SessionRegistry.get?_openSession_of_ne new ne]
    exact before
  · rw [eq]
    exact SessionRegistry.isCancelled_close_iff before other
  · rw [eq]
    exact before

/-- **A session and its run stay tied**, whatever happens. -/
theorem onward (h : s.Tied entry) (reached : Onward setup engine time s later s₁) :
    s₁.Tied entry := by
  induction reached with
  | start => exact h
  | step before next ih => exact ih.step next

/-- **A guarded call is started** only as long as the session is open, -/
theorem get?_ne_none_of_started (h : s.Tied entry)
    (next : Step setup engine time s (.started entry.id (.guarded c)) s') :
    s.hub.registry.get? entry.id ≠ none := by
  intro closed
  cases next with
  | start going isCall free =>
    obtain rfl := h.token_eq going rfl
    rw [h.hasCancelled_eq, decide_eq_false_iff_not] at free
    exact free c rfl closed

/-- **a cancellation is shown** only to the run of a session that was closed, -/
theorem get?_eq_none_of_shows (h : s.Tied entry)
    (next : Step setup engine time s (.answered entry.id x) s') (shows : x.ShowsCancellation) :
    s.hub.registry.get? entry.id = none := by
  rw [← h.hasCancelled_iff]
  cases next with
  | answer going arrives =>
    obtain rfl := h.token_eq going rfl
    exact arrives.cancelled_eq shows
  | look going atOnce =>
    obtain rfl := h.token_eq going rfl
    exact atOnce.cancelled_eq shows

/-- and there by all that goes by the token. -/
theorem showsCancellation (h : s.Tied entry)
    (next : Step setup engine time s (.answered entry.id x) s')
    (closed : s.hub.registry.get? entry.id = none) (heedful : x.request.IsHeedful) :
    x.ShowsCancellation := by
  have cancelled := h.hasCancelled_iff.2 closed
  cases next with
  | answer going arrives =>
    obtain rfl := h.token_eq going rfl
    rw [cancelled] at arrives
    exact arrives.showsCancellation heedful
  | look going atOnce =>
    obtain rfl := h.token_eq going rfl
    rw [cancelled] at atOnce
    exact atOnce.showsCancellation heedful

end Service.Tied

/-! ## The states that a service reaches -/

/-- **Nothing is known of a name that was not used**: there is no session of this name, and no token
of one is cancelled. -/
theorem registry_of_unused (reached : Reaches setup engine time past s)
    (unused : s.tasks id = none) :
    s.hub.registry.get? id = none ∧ s.hub.registry.isCancelled id = false := by
  induction reached with
  | start => exact ⟨rfl, rfl⟩
  | @step past s₁ s₂ e before next ih =>
    have unused₁ : s₁.tasks id = none := by
      by_contra used
      obtain ⟨task, used⟩ := Option.ne_none_iff_exists'.1 used
      obtain ⟨task', used', -⟩ := next.exists_token used
      cases unused.symm.trans used'
    obtain ⟨closed, uncancelled⟩ := ih unused₁
    obtain ⟨new, -, ⟨rest, used⟩, eq⟩ | ⟨other, eq⟩ | eq := next.registry_cases
    · have ne : new.id ≠ id := by
        rintro rfl
        cases unused.symm.trans used
      rw [eq, SessionRegistry.get?_openSession_of_ne new ne]
      exact ⟨closed, uncancelled⟩
    · rw [eq]
      refine ⟨get?_close_eq_none closed, ?_⟩
      rw [SessionRegistry.isCancelled_close, uncancelled, Bool.or_false, Bool.and_eq_false_iff,
        decide_eq_false_iff_not]
      by_cases own : other = id
      · subst own
        exact .inr (by rw [closed]; rfl)
      · exact .inl own
    · rw [eq]
      exact ⟨closed, uncancelled⟩

/-- **Every run is tied to its session**, in every state that a service reaches. -/
theorem tied_of_reaches (reached : Reaches setup engine time past s)
    (used : s.tasks entry.id = some task) : s.Tied entry := by
  induction reached generalizing task with
  | start => cases used
  | @step past s₁ s₂ e before next ih =>
    cases earlier : s₁.tasks entry.id with
    | some task₁ => exact (ih earlier).step next
    | none =>
      -- the session has just been opened, and its run has just been started
      obtain ⟨new, named, ⟨rest, rfl⟩, eq⟩ := next.exists_opened earlier used
      obtain ⟨closed, uncancelled⟩ := registry_of_unused before earlier
      have token_eq : new.token = entry.token := congrArg CancelToken.mk named
      refine ⟨⟨_, used, fun token same => (Option.some.inj same).symm.trans token_eq⟩, ?_⟩
      rw [eq, ← token_eq, ← named,
        SessionRegistry.get?_openSession_self new (by rw [named]; exact closed)]
      refine iff_of_false (fun cancelled => ?_) (Option.some_ne_none new)
      have cancelled' : s₁.hub.registry.isCancelled new.id = true := cancelled
      rw [named, uncancelled] at cancelled'
      cases cancelled'

/-! ## Everything that happens -/

variable (setup engine time)

/-- **The run of a session uses the token of the session**, whatever happens from a state on. -/
structure UsesToken (s : Service) (entry : SessionEntry) : Prop where
  /-- The token that the run heeds is that of its session, as long as it goes on; -/
  token_eq : ∀ {later s₁ task token}, Onward setup engine time s later s₁ →
    s₁.tasks entry.id = some task → task.token? = some token → token = entry.token
  /-- it is cancelled exactly if the session is not open any more. -/
  hasCancelled_iff : ∀ {later s₁}, Onward setup engine time s later s₁ →
    (s₁.hub.registry.hasCancelled entry.token = true ↔ s₁.hub.registry.get? entry.id = none)
  /-- As long as the session is open, the run is shown no cancellation. -/
  undisturbed : ∀ {later s₁}, Onward setup engine time s later s₁ →
    s₁.hub.registry.get? entry.id ≠ none →
    ∀ x, .answered entry.id x ∈ later → ¬ x.ShowsCancellation
  /-- Once it was closed, by whomever, no guarded call of the run is started, -/
  unstarted : ∀ {later s₁ more s₂}, Onward setup engine time s later s₁ →
    s₁.hub.registry.get? entry.id = none → Onward setup engine time s₁ more s₂ →
    ∀ c, .started entry.id (.guarded c) ∉ more
  /-- and all that goes by the token shows the run the cancellation: -/
  shown : ∀ {later s₁ more s₂}, Onward setup engine time s later s₁ →
    s₁.hub.registry.get? entry.id = none → Onward setup engine time s₁ more s₂ →
    ∀ x, .answered entry.id x ∈ more → x.request.IsHeedful → x.ShowsCancellation
  /-- a guarded call that is next is refused, -/
  refused : ∀ {later s₁ token c next}, Onward setup engine time s later s₁ →
    s₁.hub.registry.get? entry.id = none →
    s₁.tasks entry.id = some (.running token (.ask (.guarded c) next)) →
    Step setup engine time s₁ (.answered entry.id ⟨.guarded c, .refused⟩)
      ⟨s₁.hub, s₁.setTask entry.id (.running token (next .refused))⟩
  /-- and one that the run waits for is given up. -/
  interrupted : ∀ {later s₁ token c next isCall}, Onward setup engine time s later s₁ →
    s₁.hub.registry.get? entry.id = none →
    s₁.tasks entry.id = some (.waiting token (.guarded c) next isCall) →
    Step setup engine time s₁ (.answered entry.id ⟨.guarded c, .interrupted⟩)
      ⟨s₁.hub, s₁.setTask entry.id (.running token (next .interrupted))⟩

variable {setup engine time}

namespace Service.Tied

/-- As long as the session is open, the run has been shown no cancellation. -/
theorem not_shows_of_open (h : s.Tied entry) (reached : Onward setup engine time s later s₁)
    (isOpen : s₁.hub.registry.get? entry.id ≠ none) (mem : .answered entry.id x ∈ later) :
    ¬ x.ShowsCancellation := by
  induction reached with
  | start => cases mem
  | @step past s₁ s₂ e before next ih =>
    -- the session was open before, since nobody opens it again
    have tied := h.onward before
    have wasOpen : s₁.hub.registry.get? entry.id ≠ none :=
      fun closed => isOpen (tied.get?_eq_none next closed)
    rcases List.mem_append.1 mem with earlier | last
    · exact ih wasOpen earlier
    · obtain rfl := List.mem_singleton.1 last
      exact fun shows => wasOpen (tied.get?_eq_none_of_shows next shows)

/-- **A session that was closed stays closed**, whatever happens. -/
theorem get?_eq_none_of_onward (h : s.Tied entry) (closed : s.hub.registry.get? entry.id = none)
    (reached : Onward setup engine time s later s₁) :
    s₁.hub.registry.get? entry.id = none := by
  induction reached with
  | start => exact closed
  | step before next ih => exact (h.onward before).get?_eq_none next ih

/-- **The run of a session that was closed** starts no guarded call, and all that goes by the token
shows it the cancellation. -/
theorem stopped (h : s.Tied entry) (closed : s.hub.registry.get? entry.id = none)
    (reached : Onward setup engine time s later s₁) :
    (∀ c, .started entry.id (.guarded c) ∉ later) ∧
      ∀ x, .answered entry.id x ∈ later → x.request.IsHeedful → x.ShowsCancellation := by
  induction reached with
  | start => exact ⟨fun _ => List.not_mem_nil, fun _ mem => absurd mem List.not_mem_nil⟩
  | @step past s₁ s₂ e before next ih =>
    have tied := h.onward before
    have stillClosed := h.get?_eq_none_of_onward closed before
    constructor
    · intro c mem
      rcases List.mem_append.1 mem with earlier | last
      · exact ih.1 c earlier
      · obtain rfl := List.mem_singleton.1 last
        exact tied.get?_ne_none_of_started next stillClosed
    · intro x mem heedful
      rcases List.mem_append.1 mem with earlier | last
      · exact ih.2 x earlier heedful
      · obtain rfl := List.mem_singleton.1 last
        exact tied.showsCancellation next stillClosed heedful

/-- **A run that is tied to its session uses the token of the session.** -/
theorem usesToken (h : s.Tied entry) : UsesToken setup engine time s entry where
  token_eq reached going heeds := (h.onward reached).token_eq going heeds
  hasCancelled_iff reached := (h.onward reached).hasCancelled_iff
  undisturbed reached isOpen _ mem := h.not_shows_of_open reached isOpen mem
  unstarted reached closed more := ((h.onward reached).stopped closed more).1
  shown reached closed more := ((h.onward reached).stopped closed more).2
  refused reached closed going := by
    have tied := h.onward reached
    have cancelled := tied.hasCancelled_iff.2 closed
    rw [← tied.token_eq going rfl] at cancelled
    exact .look going (.refused cancelled)
  interrupted reached closed waits := by
    have tied := h.onward reached
    have cancelled := tied.hasCancelled_iff.2 closed
    rw [← tied.token_eq waits rfl] at cancelled
    exact .answer waits (.interrupted cancelled)

end Service.Tied

end Playback.Server
