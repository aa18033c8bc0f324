import Playback.Proofs.Json.Numeral
import Playback.Proofs.Server.Rejection
import Playback.Simulation.Crowd

/-!
# A simulated server is a server at work

A crowd computes what a server and its runs do in a simulated world. Whatever its clients do, it is in
the state of a service all the time: a run that waits there waits for the answer to a call, and all
others are over.

* `Pending.WaitsIn`, `Crowd.Matches` — **a crowd is in the state of a service**;
* `Segment.go_reached` — **how far a run gets** at one moment, by induction on what is left of it;
* `Crowd.Matches.proceed`, `Crowd.Matches.settle`, `Crowd.Matches.tick` — the steps of a crowd are
  steps of the service;
* `Crowd.Reached`, `Crowd.Reached.exists_reaches` — **every state of a simulated server** is one that a
  service reaches;
* `Crowd.Reached.heeds` — so a run that waits heeds the token of its session.
-/

namespace Playback.Simulation

open Server

variable {stage : Stage} {time : Instant → Json} {s s' s₁ : Service} {c : Crowd} {p : Pending}
  {id other : String} {token : CancelToken} {told : List StreamMessage} {segment : Segment}

/-! ## Runs that wait -/

/-- **A run waits in a service** as it does in a crowd: it has started a call, and whenever it is woken,
it goes on with an answer that arrives then. -/
def Pending.WaitsIn (p : Pending) (s : Service) : Prop :=
  ∃ q next isCall, s.tasks p.session = some (.waiting p.token q next isCall) ∧
    ∀ cancelled scene, ∃ x, (p.resume cancelled scene).1 = next x ∧
      Answered.Arrives cancelled ⟨q, x⟩

/-- It waits as long as it does nothing. -/
theorem Pending.WaitsIn.of_eq (h : p.WaitsIn s) (same : s'.tasks p.session = s.tasks p.session) :
    p.WaitsIn s' := by
  obtain ⟨q, next, isCall, task_eq, resumes⟩ := h
  exact ⟨q, next, isCall, same.trans task_eq, resumes⟩

/-- A run that gives up nothing goes on with the answer. -/
theorem Pending.resume_of_none (patient : p.wait.giveUp = none) (cancelled : Bool) (scene : Scene) :
    p.resume cancelled scene = p.wait.goOn scene := by
  rw [resume, patient]

/-- Another one does so if its token is not cancelled, and gives up what it waits for otherwise. -/
theorem Pending.resume_of_some {r : Routine RunSummary} (gives : p.wait.giveUp = some r)
    (cancelled : Bool) (scene : Scene) :
    p.resume cancelled scene = if cancelled then (r, scene) else p.wait.goOn scene := by
  rw [resume, gives]

/-- **How the answer to a request arrives** in a crowd: the page gives one, in which case the token does
not matter if there is no way to give up, or the request is given up. -/
structure Resumes {α : Type} (q : Request) (answer : α → q.Answer) (giveUp : Option q.Answer) :
    Prop where
  arrives : ∀ a, Answered.Arrives false ⟨q, answer a⟩
  withstands : giveUp = none → ∀ a, Answered.Arrives true ⟨q, answer a⟩
  givenUp : ∀ x, giveUp = some x → Answered.Arrives true ⟨q, x⟩

/-- A shielded call is waited for, whatever happens; -/
theorem resumes_shielded (call : Call) :
    Resumes (α := call.Answer) (.shielded call) (fun a => a) none where
  arrives a := .shielded a
  withstands _ a := .shielded a
  givenUp _ same := by cases same

/-- the others are given up if the token is cancelled. -/
theorem resumes_inside (call : Call) : Resumes (α := call.Answer) (.inside call) some (some none) where
  arrives a := .inside a
  withstands same := by cases same
  givenUp x same := by
    obtain rfl := Option.some.inj same
    exact .givenUp rfl

theorem resumes_guarded (call : Call) :
    Resumes (α := call.Answer) (.guarded call) .answered (some .interrupted) where
  arrives a := .guarded a rfl
  withstands same := by cases same
  givenUp x same := by
    obtain rfl := Option.some.inj same
    exact .interrupted rfl

/-- **A run that has started a call** waits in the service if it waits in the crowd. -/
theorem Resumes.waitsIn {α : Type} {q : Request} {next : q.Answer → Routine RunSummary}
    {isCall : q.call?.isSome = true} {answer : α → q.Answer} {giveUp : Option q.Answer}
    (h : Resumes q answer giveUp) (task_eq : s.tasks id = some (.waiting token q next isCall))
    {wait : Waiting} (goOn : ∀ scene, ∃ a, (wait.goOn scene).1 = next (answer a))
    (gives : wait.giveUp = giveUp.map next) : Pending.WaitsIn ⟨id, token, wait⟩ s := by
  refine ⟨q, next, isCall, task_eq, fun cancelled scene => ?_⟩
  obtain ⟨a, same⟩ := goOn scene
  cases giveUp with
  | none =>
    rw [Pending.resume_of_none gives]
    refine ⟨answer a, same, ?_⟩
    cases cancelled with
    | true => exact h.withstands rfl a
    | false => exact h.arrives a
  | some x =>
    rw [Pending.resume_of_some gives]
    cases cancelled with
    | true => exact ⟨x, rfl, h.givenUp x rfl⟩
    | false => exact ⟨answer a, same, h.arrives a⟩

/-! ## One moment of a run -/

namespace Segment

/-- **A run stops** where it waits, or at its end. -/
inductive Stops (s : Service) (id : String) (token : CancelToken) : Option Waiting → Prop where
  | waits {wait : Waiting} (waiting : Pending.WaitsIn ⟨id, token, wait⟩ s) :
      Stops s id token (some wait)
  | ends {summary : RunSummary} (task_eq : s.tasks id = some (.running token (.done summary))) :
      Stops s id token none

/-- **A run gets as far in a service** as in a segment: it tells the same, stops in the same way, and
leaves the other runs alone. -/
def Reached (stage : Stage) (time : Instant → Json) (s : Service) (id : String)
    (token : CancelToken) (told : List StreamMessage) (segment : Segment) : Prop :=
  ∃ later s', ∃ messages : List StreamMessage, Onward stage.setup stage.engine time s later s' ∧
    segment.told = messages.reverse ++ told ∧
    s'.hub = messages.foldl (fun h m => h.send id m) s.hub ∧
    (∀ other, id ≠ other → s'.tasks other = s.tasks other) ∧ Stops s' id token segment.waiting

/-- A run that stops gets no further. -/
theorem Stops.reached {wait : Option Waiting} (h : Stops s id token wait) (scene : Scene) :
    Reached stage time s id token told { scene, told, waiting := wait } :=
  ⟨[], s, [], .start, rfl, rfl, fun _ _ => rfl, h⟩

/-- What the run does before does not matter, as far as it changes only itself and tells nothing. -/
theorem Reached.head {task : RunTask} {e : Server.Happening}
    (h : Reached stage time ⟨s.hub, s.setTask id task⟩ id token told segment)
    (first : Step stage.setup stage.engine time s e ⟨s.hub, s.setTask id task⟩) :
    Reached stage time s id token told segment := by
  obtain ⟨more, s', messages, onward, told_eq, hub_eq, others, stops⟩ := h
  refine ⟨_, s', messages, onward.head first, told_eq, hub_eq, fun other ne => ?_, stops⟩
  exact (others other ne).trans (Service.setTask_of_ne ne)

/-- **A run that tells something** goes on. -/
theorem reached_of_tell {m : StreamMessage} {next : (Request.tell m).Answer → Routine RunSummary}
    (going : s.tasks id = some (.running token (.ask (.tell m) next)))
    (h : Reached stage time ⟨s.hub.send id m, s.setTask id (.running token (next ()))⟩ id token
      (m :: told) segment) : Reached stage time s id token told segment := by
  obtain ⟨later, s', messages, onward, told_eq, hub_eq, others, stops⟩ := h
  refine ⟨_, s', m :: messages, onward.head (.tell going), ?_, hub_eq, fun other ne => ?_, stops⟩
  · rw [List.reverse_cons, List.append_assoc]
    exact told_eq
  · exact (others other ne).trans (Service.setTask_of_ne ne)

/-- **A run that starts a call** goes on at once if there is an answer, and waits otherwise. -/
theorem reached_of_call {α : Type} {q : Request} {next : q.Answer → Routine RunSummary}
    {answer : α → q.Answer} {giveUp : Option q.Answer} (resumes : Resumes q answer giveUp)
    (going : s.tasks id = some (.running token (.ask q next))) (isCall : q.call?.isSome = true)
    (free : ∀ c, q = .guarded c → s.hub.registry.hasCancelled token = false)
    (atOnce : ∀ a, Answered.Arrives (s.hub.registry.hasCancelled token) ⟨q, answer a⟩)
    (started : Started α × Scene) {rest : (a : α) → Scene → Segment}
    (h : ∀ a scene tasks, tasks id = some (.running token (next (answer a))) →
      Reached stage time ⟨s.hub, tasks⟩ id token told (rest a scene)) :
    Reached stage time s id token told
      (afterStart started (fun a => next (answer a)) (giveUp.map next) rest told) := by
  refine Reached.head ?_ (.start going isCall free)
  have waiting : s.setTask id (.waiting token q next isCall) id =
      some (.waiting token q next isCall) := Service.setTask_self
  obtain ⟨a | ⟨wake, wakeUp⟩, scene⟩ := started
  · have goesOn := h a scene (Service.setTask ⟨s.hub, s.setTask id (.waiting token q next isCall)⟩
      id (.running token (next (answer a)))) Service.setTask_self
    exact goesOn.head (.answer waiting (atOnce a))
  · refine Stops.reached (.waits (resumes.waitsIn waiting (fun scene => ?_) rfl)) scene
    exact ⟨(wakeUp scene).1, rfl⟩

/-- **How far a run gets** at one moment in a crowd, so far it gets in a service. -/
theorem go_reached (script : Script) {r : Routine RunSummary}
    (going : s.tasks id = some (.running token r)) (scene : Scene) (told : List StreamMessage) :
    Reached stage time s id token told
      (go script (s.hub.registry.hasCancelled token) r scene told) := by
  -- on what is left of the run; the state of its token does not change while it goes on
  induction r generalizing s scene told with
  | done summary => exact (Stops.ends going).reached scene
  | ask q next ih =>
    have goesOn : ∀ x scene tasks, tasks id = some (.running token (next x)) →
        Reached stage time ⟨s.hub, tasks⟩ id token told
          (go script (s.hub.registry.hasCancelled token) (next x) scene told) :=
      fun x scene tasks going => ih x (s := ⟨s.hub, tasks⟩) going scene told
    have looked : ∀ x, Answered.AtOnce (s.hub.registry.hasCancelled token) ⟨q, x⟩ →
        Reached stage time s id token told
          (go script (s.hub.registry.hasCancelled token) (next x) scene told) :=
      fun x atOnce => (goesOn x scene _ Service.setTask_self).head (.look going atOnce)
    cases q with
    | check => exact looked _ .check
    | clock => exact looked _ (.clock _)
    | now => exact looked _ (.now _)
    | tell m =>
      have after := ih () (s := ⟨s.hub.send id m, s.setTask id (.running token (next ()))⟩)
        Service.setTask_self scene (m :: told)
      exact reached_of_tell going after
    | shielded call =>
      exact reached_of_call (resumes_shielded call) going rfl
        (fun c same => Request.noConfusion same) .shielded _ fun a => goesOn a
    | inside call =>
      exact reached_of_call (resumes_inside call) going rfl
        (fun c same => Request.noConfusion same) .inside _ fun a => goesOn (some a)
    | guarded call =>
      rw [go]
      split
      · next cancelled => exact looked .refused (.refused cancelled)
      · next free =>
        have free := Bool.eq_false_iff.2 free
        exact reached_of_call (resumes_guarded call) going rfl (fun _ _ => free)
          (fun a => .guarded a free) _ fun a => goesOn (.answered a)

end Segment

/-! ## Crowds and services -/

namespace Crowd

/-- Sessions of different numbers have different names. -/
theorem sessionName_inj {m n : Nat} (same : sessionName m = sessionName n) : m = n := by
  have chars : ∀ n, (sessionName n).toList = '<' :: 's' :: (digitsOf n ++ ['>']) := by
    intro n
    simp [sessionName, digitsOf]
  have digits := congrArg String.toList same
  rw [chars, chars, List.cons.injEq, List.cons.injEq, List.append_left_inj] at digits
  exact Json.digitsOf_inj.1 digits.2.2

/-- **A crowd is in the state of a service**, leaving aside at most one session, whose run goes on: the
same runs wait, the others are over, and names of later sessions are not used. -/
structure Matches (c : Crowd) (s : Service) (aside : Option String) : Prop where
  hub_eq : s.hub = c.hub
  waits : ∀ p ∈ c.waiting, p.WaitsIn s ∧ aside ≠ some p.session
  others : ∀ id task, s.tasks id = some task → aside ≠ some id →
    task = .done ∨ ∃ p ∈ c.waiting, p.session = id
  nodup : (c.waiting.map Pending.session).Nodup
  unused : ∀ n, c.opened ≤ n → s.tasks (sessionName n) = none

/-- **A service goes on to the state of a crowd.** -/
def Follows (stage : Stage) (time : Instant → Json) (s : Service) (c : Crowd) : Prop :=
  ∃ later s', Onward stage.setup stage.engine time s later s' ∧ c.Matches s' none

namespace Matches

/-- A service whose state is that of a crowd need not go on to it. -/
theorem follows (h : c.Matches s none) (stage : Stage) (time : Instant → Json) :
    c.Follows stage time s :=
  ⟨[], s, .start, h⟩

/-- The run that was left aside is none of those that wait. -/
theorem session_ne (h : c.Matches s (some id)) (mem : p ∈ c.waiting) : id ≠ p.session :=
  fun same => (h.waits p mem).2 (congrArg some same)

/-- Names of later sessions stay unused while a run goes on. -/
theorem unused_of_used {aside : Option String} (h : c.Matches s aside)
    (alone : ∀ other, id ≠ other → s'.tasks other = s.tasks other) (used : s.tasks id ≠ none) (n : Nat)
    (later : c.opened ≤ n) : s'.tasks (sessionName n) = none := by
  have unused := h.unused n later
  have ne : id ≠ sessionName n := by
    rintro rfl
    exact used unused
  rw [alone _ ne]
  exact unused

/-- **The run that was left aside waits**, and has left the others as they are. -/
theorem await {wait : Waiting} (h : c.Matches s (some id))
    (alone : ∀ other, id ≠ other → s'.tasks other = s.tasks other) (used : s.tasks id ≠ none)
    (waits : Pending.WaitsIn ⟨id, token, wait⟩ s') {hub : Hub} (hub_eq : s'.hub = hub)
    (scene : Scene) :
    Matches { c with hub, scene, waiting := c.waiting ++ [⟨id, token, wait⟩] } s' none := by
  constructor
  case hub_eq => exact hub_eq
  case waits =>
    intro p mem
    refine ⟨?_, (Option.some_ne_none _).symm⟩
    rcases List.mem_append.1 mem with before | last
    · exact (h.waits p before).1.of_eq (alone _ (h.session_ne before))
    · obtain rfl := List.mem_singleton.1 last
      exact waits
  case others =>
    intro x task task_eq _
    by_cases own : id = x
    · exact .inr ⟨_, List.mem_append_right _ List.mem_cons_self, own⟩
    · rw [alone x own] at task_eq
      obtain done | ⟨p, mem, named⟩ := h.others x task task_eq fun same => own (Option.some.inj same)
      · exact .inl done
      · exact .inr ⟨p, List.mem_append_left _ mem, named⟩
  case nodup =>
    rw [List.map_append, List.nodup_append]
    refine ⟨h.nodup, List.nodup_singleton _, fun x mem y last => ?_⟩
    obtain ⟨p, inside, rfl⟩ := List.mem_map.1 mem
    rw [List.mem_singleton.1 last]
    exact (h.session_ne inside).symm
  case unused => exact h.unused_of_used alone used

/-- **The run that was left aside is over**, and has left the others as they are. -/
theorem cease (h : c.Matches s (some id))
    (alone : ∀ other, id ≠ other → s'.tasks other = s.tasks other) (used : s.tasks id ≠ none)
    (done : s'.tasks id = some .done) {hub : Hub} (hub_eq : s'.hub = hub) (scene : Scene) :
    Matches { c with hub, scene } s' none := by
  constructor
  case hub_eq => exact hub_eq
  case waits =>
    intro p mem
    exact ⟨(h.waits p mem).1.of_eq (alone _ (h.session_ne mem)), (Option.some_ne_none _).symm⟩
  case others =>
    intro x task task_eq _
    by_cases own : id = x
    · subst own
      exact .inl (Option.some.inj (task_eq.symm.trans done))
    · rw [alone x own] at task_eq
      exact h.others x task task_eq fun same => own (Option.some.inj same)
  case nodup => exact h.nodup
  case unused => exact h.unused_of_used alone used

/-- The time and the page do not matter. -/
theorem withScene {aside : Option String} (h : c.Matches s aside) (scene : Scene) :
    Matches { c with scene } s aside :=
  ⟨h.hub_eq, h.waits, h.others, h.nodup, h.unused⟩

/-- **The run that was left aside** goes on, until it waits or is over. -/
theorem proceed {r : Routine RunSummary} (h : c.Matches s (some id))
    (going : s.tasks id = some (.running token r)) :
    (c.proceed stage id token r).Follows stage time s := by
  have goes : Segment.Reached stage time s id token []
      (Segment.go stage.script (s.hub.registry.hasCancelled token) r c.scene []) :=
    Segment.go_reached stage.script going c.scene []
  have used : s.tasks id ≠ none := by
    rw [going]
    exact Option.some_ne_none _
  rw [h.hub_eq] at goes
  rw [Crowd.proceed]
  generalize Segment.go stage.script (c.hub.registry.hasCancelled token) r c.scene [] = segment
    at goes
  obtain ⟨scene, told, waiting⟩ := segment
  obtain ⟨later, s', messages, onward, told_eq, hub_eq, alone, stops⟩ := goes
  obtain rfl : told = messages.reverse ++ [] := told_eq
  rw [List.append_nil, List.reverse_reverse]
  rw [h.hub_eq] at hub_eq
  rw [← hub_eq]
  cases stops with
  | @waits wait waits => exact ⟨later, s', onward, h.await alone used waits rfl scene⟩
  | @ends summary task_eq =>
    -- the run hangs up, and then it closes its session
    have hungUp : Step stage.setup stage.engine time s' (.hungUp id) _ := .hangUp task_eq
    have closed := (onward.step hungUp).step (.close Service.setTask_self)
    refine ⟨_, _, closed, h.cease (fun other ne => ?_) used Service.setTask_self ?_ scene⟩
    · exact (Service.setTask_of_ne ne).trans ((Service.setTask_of_ne ne).trans (alone other ne))
    · rfl

/-- **A run that waits is woken**, and is left aside to go on. -/
theorem wake (h : c.Matches s none) (mem : p ∈ c.waiting) (scene : Scene) :
    ∃ e s', Step stage.setup stage.engine time s e s' ∧
      (c.withdraw p.session).Matches s' (some p.session) ∧
      s'.tasks p.session = some (.running p.token
        (p.resume (c.hub.registry.hasCancelled p.token) scene).1) := by
  obtain ⟨⟨q, next, isCall, task_eq, resumes⟩, -⟩ := h.waits p mem
  obtain ⟨x, resumed, arrives⟩ := resumes (c.hub.registry.hasCancelled p.token) scene
  rw [← h.hub_eq] at arrives
  refine ⟨_, _, .answer task_eq arrives, ?_, by rw [resumed]; exact Service.setTask_self⟩
  have alone : ∀ other, p.session ≠ other →
      s.setTask p.session (.running p.token (next x)) other = s.tasks other :=
    fun _ ne => Service.setTask_of_ne ne
  constructor
  case hub_eq => exact h.hub_eq
  case waits =>
    intro p' mem'
    obtain ⟨before, other⟩ := List.mem_filter.1 mem'
    have ne : p.session ≠ p'.session := by
      intro same
      simp [same] at other
    exact ⟨(h.waits p' before).1.of_eq (alone _ ne), fun same => ne (Option.some.inj same)⟩
  case others =>
    intro x task task_eq aside
    have ne : p.session ≠ x := fun same => aside (congrArg some same)
    obtain done | ⟨p', mem', named⟩ :=
      h.others x task ((alone x ne).symm.trans task_eq) (Option.some_ne_none x).symm
    · exact .inl done
    · refine .inr ⟨p', List.mem_filter.2 ⟨mem', ?_⟩, named⟩
      simpa [named] using Ne.symm ne
  case nodup => exact h.nodup.sublist (List.filter_sublist.map _)
  case unused =>
    refine h.unused_of_used alone ?_
    rw [task_eq]
    exact Option.some_ne_none _

end Matches

/-- Steps of a service before it goes on to a crowd do not matter. -/
theorem Follows.head {later : List Server.Happening} (h : c.Follows stage time s₁)
    (before : Onward stage.setup stage.engine time s later s₁) : c.Follows stage time s := by
  obtain ⟨more, s', onward, matched⟩ := h
  exact ⟨_, s', before.trans onward, matched⟩

/-- **A service that goes on to a crowd** goes on to whatever a service goes on to from there. -/
theorem Follows.trans {c' : Crowd} (h : c.Follows stage time s)
    (next : ∀ s', c.Matches s' none → c'.Follows stage time s') : c'.Follows stage time s := by
  obtain ⟨later, s', onward, matched⟩ := h
  exact (next s' matched).head onward

/-- A run that is interrupted waits, its token is cancelled, and it gives up what it waits for. -/
theorem exists_of_interrupted? {r : Routine RunSummary} (found : c.interrupted? = some (p, r)) :
    p ∈ c.waiting ∧ c.hub.registry.hasCancelled p.token = true ∧ p.wait.giveUp = some r := by
  obtain ⟨p', mem, same⟩ := List.exists_of_findSome?_eq_some found
  split at same
  · next cancelled =>
    obtain ⟨r', gives, same⟩ := Option.map_eq_some_iff.1 same
    obtain ⟨rfl, rfl⟩ := Prod.mk.inj same
    exact ⟨mem, cancelled, gives⟩
  · cases same

namespace Matches

/-- **A run that was woken goes on**, at some time of the clock. -/
theorem goOn (h : c.Matches s none) (mem : p ∈ c.waiting) (scene scene' : Scene) :
    (Crowd.proceed stage { c.withdraw p.session with scene := scene' } p.session p.token
      (p.resume (c.hub.registry.hasCancelled p.token) scene).1).Follows stage time s := by
  obtain ⟨e, s', next, matched, going⟩ := h.wake mem scene
  exact ((matched.withScene scene').proceed going).head (Onward.start.step next)

/-- **Cancelled runs are interrupted**, one after the other. -/
theorem stir (h : c.Matches s none) (steps : Nat) : (c.stir stage steps).Follows stage time s := by
  induction steps generalizing c s with
  | zero => exact h.follows stage time
  | succ steps ih =>
    rw [Crowd.stir]
    -- whoever is interrupted is woken with its token cancelled, and gives up
    cases found : c.interrupted? with
    | none => exact h.follows stage time
    | some interrupted =>
      obtain ⟨p, r⟩ := interrupted
      obtain ⟨mem, cancelled, gives⟩ := exists_of_interrupted? found
      have resumed : (p.resume (c.hub.registry.hasCancelled p.token) c.scene).1 = r := by
        rw [Pending.resume_of_some gives, cancelled, if_pos rfl]
      have goes : Follows stage time s (Crowd.proceed stage (c.withdraw p.session) p.session p.token
          (p.resume (c.hub.registry.hasCancelled p.token) c.scene).1) := h.goOn mem c.scene c.scene
      rw [resumed] at goes
      exact goes.trans fun _ => ih

/-- All runs go on that can. -/
theorem settle (h : c.Matches s none) : (c.settle stage).Follows stage time s := h.stir _

end Matches

/-- A service that goes on to a crowd goes on to what the crowd settles at. -/
theorem Follows.settle (h : c.Follows stage time s) : (c.settle stage).Follows stage time s :=
  h.trans fun _ matched => matched.settle

/-- The run that waits for the earliest time is one of those that wait. -/
theorem mem_of_earliest {waiting : List Pending} (found : earliest waiting = some p) :
    p ∈ waiting := by
  induction waiting with
  | nil => cases found
  | cons first rest ih =>
    rw [earliest] at found
    split at found
    · next last found' =>
      split at found
      · exact Option.some.inj found ▸ List.mem_cons_self
      · exact List.mem_cons_of_mem _ (ih (found'.trans found))
    · exact Option.some.inj found ▸ List.mem_cons_self

namespace Matches

/-- **The clock moves** to the time that a run waits for. -/
theorem tick {c' : Crowd} {limit : Option Nat} (h : c.Matches s none)
    (ticked : c.tick stage limit = some c') : c'.Follows stage time s := by
  rw [Crowd.tick] at ticked
  split at ticked
  · cases ticked
  · next p found =>
    split at ticked
    · cases ticked
    · obtain rfl := Option.some.inj ticked
      exact (h.goOn (mem_of_earliest found) _ _).settle

/-- It moves as often as it may. -/
theorem advance (h : c.Matches s none) (limit steps : Nat) :
    (c.advance stage limit steps).Follows stage time s := by
  induction steps generalizing c s with
  | zero => exact h.follows stage time
  | succ steps ih =>
    rw [Crowd.advance]
    cases ticked : c.tick stage (some limit) with
    | none => exact (h.withScene _).follows stage time
    | some c' => exact (h.tick ticked).trans fun _ => ih

/-! ## Clients -/

/-- What a client does to the streams and the registry leaves the runs as they are. -/
theorem withHub {aside : Option String} (h : c.Matches s aside) (hub : Hub) :
    Matches { c with hub } ⟨hub, s.tasks⟩ aside :=
  ⟨rfl, fun p mem => ⟨(h.waits p mem).1.of_eq rfl, (h.waits p mem).2⟩, h.others, h.nodup, h.unused⟩

/-- **A run is accepted** under the next name, and is left aside to go on. -/
theorem accept (h : c.Matches s none) (hub : Hub) (task : RunTask) :
    Matches { c with hub, opened := c.opened + 1 } ⟨hub, s.setTask c.nextId task⟩
      (some c.nextId) := by
  have unused : s.tasks c.nextId = none := h.unused c.opened (Nat.le_refl _)
  have alone : ∀ other, c.nextId ≠ other → s.setTask c.nextId task other = s.tasks other :=
    fun _ ne => Service.setTask_of_ne ne
  constructor
  case hub_eq => rfl
  case waits =>
    intro p mem
    obtain ⟨waits, -⟩ := h.waits p mem
    -- a run that waits has a name that is in use
    have ne : c.nextId ≠ p.session := by
      intro same
      obtain ⟨q, next, isCall, task_eq, -⟩ := waits
      rw [← same, unused] at task_eq
      cases task_eq
    exact ⟨waits.of_eq (alone _ ne), fun same => ne (Option.some.inj same)⟩
  case others =>
    intro x task task_eq aside
    have ne : c.nextId ≠ x := fun same => aside (congrArg some same)
    exact h.others x task ((alone x ne).symm.trans task_eq) (Option.some_ne_none x).symm
  case nodup => exact h.nodup
  case unused =>
    intro n later
    refine (alone _ fun same => ?_).trans (h.unused n (Nat.le_of_succ_le later))
    have number : c.opened = n := sessionName_inj same
    exact absurd later (by rw [number]; exact Nat.not_succ_le_self n)

/-- **A request is answered** as a service answers it, and the run that it starts goes on. -/
theorem request (h : c.Matches s none) (r : WebRequest) :
    (c.request stage time r).2.Follows stage time s := by
  obtain ⟨⟨response, hub, run⟩, answer⟩ : ∃ x, stage.setup.respond c.hub time c.nextId
    (Instant.ofTotal c.opened) r = x := ⟨_, rfl⟩
  have next : Step stage.setup stage.engine time s (.requested r response) ⟨hub, run.elim s.tasks
      fun run => s.setTask c.nextId (.running run.token (stage.engine.session run.request))⟩ :=
    .request (h.unused c.opened (Nat.le_refl _)) (h.hub_eq ▸ answer)
  rw [Crowd.request, answer]
  cases run with
  | none => exact (h.withHub hub).settle.head (Onward.start.step next)
  | some run =>
    obtain ⟨entry, launch, -, named, -, -, -, same⟩ | ⟨-, none_eq, -⟩ := Setup.respond_cases answer
    · obtain rfl := Option.some.inj same
      have accepted := h.accept hub (.running run.token (stage.engine.session run.request))
      dsimp only
      rw [named]
      exact ((accepted.proceed Service.setTask_self).head (Onward.start.step next)).settle
    · cases none_eq

end Matches

/-! ## Readers -/

/-- Messages drive no reader away. -/
theorem isRead_foldl_send {h : Hub} (reader : h.IsRead id) (messages : List StreamMessage) :
    (messages.foldl (fun h m => h.send other m) h).IsRead id := by
  induction messages generalizing h with
  | nil => exact reader
  | cons m messages ih => exact ih (reader.alterFeed fun feed => hasReader_hear feed.mailbox m)

/-- Nor does the end of a run, -/
theorem isRead_finish {h : Hub} (reader : h.IsRead id) (other : String) :
    (h.finish other).IsRead id := by
  have ceased : (h.alterFeed other fun feed => { feed with isOver := true }).IsRead id :=
    reader.alterFeed fun _ => rfl
  exact ceased

/-- so that a run that goes on drives none away. -/
theorem isRead_proceed (reader : c.hub.IsRead id) (r : Routine RunSummary) :
    (c.proceed stage other token r).hub.IsRead id := by
  rw [proceed]
  split
  · exact isRead_foldl_send reader _
  · exact isRead_finish (isRead_foldl_send reader _) other

theorem isRead_stir (reader : c.hub.IsRead id) (steps : Nat) :
    (c.stir stage steps).hub.IsRead id := by
  induction steps generalizing c with
  | zero => exact reader
  | succ steps ih =>
    rw [stir]
    split
    · next p r found =>
      have withdrawn : (c.withdraw p.session).hub.IsRead id := reader
      exact ih (isRead_proceed withdrawn r)
    · exact reader

/-- **Whoever reads a stream** reads it still when the clock has moved. -/
theorem isRead_tick {c' : Crowd} {limit : Option Nat} (reader : c.hub.IsRead id)
    (ticked : c.tick stage limit = some c') : c'.hub.IsRead id := by
  rw [tick] at ticked
  split at ticked
  · cases ticked
  · next p found =>
    split at ticked
    · cases ticked
    · obtain rfl := Option.some.inj ticked
      refine isRead_stir (isRead_proceed ?_ _) _
      exact reader

namespace Matches

/-- **A reader reads** as many messages as it likes, or until the end of the stream. -/
theorem read (h : c.Matches s none) (reader : c.hub.IsRead id) (steps : Nat) (count : Option Nat)
    (got : List StreamMessage) :
    (c.read stage id steps count got).2.2.Follows stage time s := by
  induction steps generalizing c s count got with
  | zero => exact h.follows stage time
  | succ steps ih =>
    rw [Crowd.read]
    split
    · exact h.follows stage time
    rw [← h.hub_eq] at reader
    cases delivered : c.hub.read id with
    | mk delivery hub =>
      cases delivery with
      | message m =>
        have next : Step stage.setup stage.engine time s (.received id m) ⟨hub, s.tasks⟩ :=
          .read reader (h.hub_eq ▸ delivered)
        obtain ⟨feed, rest, -, -, rfl⟩ := Hub.read_eq_message delivered
        rw [h.hub_eq] at reader
        have still : (c.hub.alterFeed id fun feed =>
            { feed with mailbox := { feed.mailbox with waiting := rest } }).IsRead id :=
          reader.alterFeed fun _ => rfl
        exact (ih (h.withHub _) still _ _).head (Onward.start.step next)
      | ended =>
        have next : Step stage.setup stage.engine time s (.ended id) ⟨hub, s.tasks⟩ :=
          .finish reader (h.hub_eq ▸ delivered)
        exact (h.withHub hub).settle.head (Onward.start.step next)
      | nothing =>
        -- the reader waits, and the clock moves if some run waits, too
        obtain rfl := Hub.read_eq_nothing delivered
        dsimp only
        split
        · next c' ticked =>
          rw [h.hub_eq] at reader
          have still : c'.hub.IsRead id := isRead_tick reader ticked
          exact (h.tick ticked).trans fun _ matched => ih matched still _ _
        · exact h.follows stage time

/-- **A reader leaves.** -/
theorem leave (h : c.Matches s none) (reader : c.hub.IsRead id) :
    (c.leave stage id).Follows stage time s := by
  rw [← h.hub_eq] at reader
  have next : Step stage.setup stage.engine time s (.left id) ⟨s.hub.leave id, s.tasks⟩ :=
    .leave reader
  rw [h.hub_eq] at next
  exact (h.withHub (c.hub.leave id)).settle.head (Onward.start.step next)

end Matches

/-! ## Everything that clients do -/

/-- **The states of a simulated server**, whose clients send requests, read streams, leave them and
wait. -/
inductive Reached (stage : Stage) (time : Instant → Json) : Crowd → Prop where
  | start (scene : Scene) : Reached stage time { scene }
  | request {c : Crowd} (before : Reached stage time c) (r : WebRequest) :
      Reached stage time (c.request stage time r).2
  | read {c : Crowd} {id : String} (before : Reached stage time c) (reader : c.hub.IsRead id)
      (steps : Nat) (count : Option Nat) : Reached stage time (c.read stage id steps count []).2.2
  | leave {c : Crowd} {id : String} (before : Reached stage time c) (reader : c.hub.IsRead id) :
      Reached stage time (c.leave stage id)
  | sleep {c : Crowd} (before : Reached stage time c) (ms steps : Nat) :
      Reached stage time (c.sleep stage ms steps)

/-- A simulated server begins like a service. -/
theorem matches_start (scene : Scene) : Matches { scene } {} none where
  hub_eq := rfl
  waits _ mem := absurd mem List.not_mem_nil
  others _ task used := absurd used (Option.some_ne_none task).symm
  nodup := List.nodup_nil
  unused _ _ := rfl

namespace Reached

/-- **Every state of a simulated server is one that a service reaches**, with a name ready for the next
session that is fresh. -/
theorem exists_reaches (h : Reached stage time c) :
    ∃ past s, Server.Reaches stage.setup stage.engine time past s ∧ c.Matches s none ∧
      s.IsFresh c.nextId := by
  suffices ∃ past s, Server.Reaches stage.setup stage.engine time past s ∧ c.Matches s none by
    obtain ⟨past, s, reaches, matched⟩ := this
    exact ⟨past, s, reaches, matched, isFresh_of_reaches reaches (matched.unused _ (Nat.le_refl _))⟩
  have goesOn : ∀ {c : Crowd} {past s}, Server.Reaches stage.setup stage.engine time past s →
      c.Follows stage time s →
      ∃ past s, Server.Reaches stage.setup stage.engine time past s ∧ c.Matches s none := by
    rintro c past s reaches ⟨later, s', onward, matched⟩
    exact ⟨_, s', reaches.trans onward, matched⟩
  induction h with
  | start scene => exact ⟨[], {}, .start, matches_start scene⟩
  | request before r ih =>
    obtain ⟨past, s, reaches, matched⟩ := ih
    exact goesOn reaches (matched.request r)
  | read before reader steps count ih =>
    obtain ⟨past, s, reaches, matched⟩ := ih
    exact goesOn reaches (matched.read reader steps count [])
  | leave before reader ih =>
    obtain ⟨past, s, reaches, matched⟩ := ih
    exact goesOn reaches (matched.leave reader)
  | sleep before ms steps ih =>
    obtain ⟨past, s, reaches, matched⟩ := ih
    exact goesOn reaches (matched.advance _ steps)

/-- **A run that waits heeds the token of its session**, which is cancelled exactly if the session is
not open any more. -/
theorem heeds (h : Reached stage time c) (mem : p ∈ c.waiting) :
    p.token = ⟨p.session⟩ ∧ (c.hub.registry.hasCancelled p.token = true ↔
      c.hub.registry.get? p.session = none) := by
  obtain ⟨past, s, reaches, matched, -⟩ := h.exists_reaches
  obtain ⟨⟨q, next, isCall, task_eq, -⟩, -⟩ := matched.waits p mem
  have tied : s.Tied ⟨p.session, none, default⟩ := tied_of_reaches reaches task_eq
  have token_eq : p.token = ⟨p.session⟩ := tied.token_eq task_eq rfl
  refine ⟨token_eq, ?_⟩
  rw [token_eq, ← matched.hub_eq]
  exact tied.hasCancelled_iff

end Reached

end Crowd

end Playback.Simulation
