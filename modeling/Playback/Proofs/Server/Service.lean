import Mathlib.Logic.Function.Basic
import Playback.Proofs.Routine.Transcript
import Playback.Proofs.Server.Requests

/-!
# A server at work

A server answers requests while the runs that it has accepted go on and the readers of their streams
read. All of them take turns in any order.

* `Hub.feed?_alterFeed` and its neighbours — **what the operations of a hub do to the streams**;
* `Answered.AtOnce`, `Answered.Arrives` — **what a run is answered** while its token is cancelled or
  not;
* `Service` — **a server with the runs it has accepted**, each with its token;
* `Happening`, `Step` — what can happen next, and how it changes the service;
* `Onward`, `Reaches` — **the states of a service and how it got there**;
* `Step.frame` — what happens to one session leaves the others as they are.
-/

namespace Playback.Server

/-! ## The streams of a hub -/

namespace Hub

variable {h h' : Hub} {id other : String} {f : Feed → Feed} {feed : Feed} {m : StreamMessage}

/-- **Only the stream that is changed** is changed. -/
theorem feed?_alterFeed : (h.alterFeed id f).feed? other =
    if id = other then (h.feed? other).map f else h.feed? other := by
  simp only [feed?, alterFeed, List.find?_map, Option.map_map]
  have named : ((fun e : String × Feed => e.1 == other) ∘
      fun e => if e.1 == id then (e.1, f e.2) else e) = fun e => e.1 == other := by
    funext e
    by_cases own : e.1 = id <;> simp [own]
  rw [named]
  cases found : h.streams.find? fun e => e.1 == other with
  | none => simp
  | some e =>
    obtain rfl : e.1 = other := by simpa using List.find?_some found
    by_cases own : e.1 = id <;> simp [own, Ne.symm]

theorem feed?_alterFeed_self : (h.alterFeed id f).feed? id = (h.feed? id).map f := by
  rw [feed?_alterFeed, if_pos rfl]

theorem feed?_alterFeed_of_ne (ne : id ≠ other) :
    (h.alterFeed id f).feed? other = h.feed? other := by
  rw [feed?_alterFeed, if_neg ne]

/-- A session that is opened has an empty stream. -/
theorem feed?_accept_self {e : SessionEntry} (new : h.feed? e.id = none) :
    (h.accept e).feed? e.id = some {} := by
  rw [feed?, Option.map_eq_none_iff] at new
  simp [feed?, accept, List.find?_append, new]

theorem feed?_accept_of_ne {e : SessionEntry} (ne : e.id ≠ other) :
    (h.accept e).feed? other = h.feed? other := by
  simp [feed?, accept, List.find?_append, ne]

@[simp] theorem registry_close : (h.close id).2.registry = (h.registry.close id).2 := rfl

@[simp] theorem registry_send : (h.send id m).registry = h.registry := rfl

@[simp] theorem registry_alterFeed : (h.alterFeed id f).registry = h.registry := rfl

@[simp] theorem registry_leave : (h.leave id).registry = (h.registry.close id).2 := rfl

/-- Of the streams, a reader who leaves changes the one that is left. -/
theorem feed?_leave : (h.leave id).feed? other =
    (h.alterFeed id fun s => { s with mailbox := s.mailbox.leave }).feed? other := rfl

/-- **A reader who gets a message** gets the first of those that wait. -/
theorem read_eq_message (delivered : h.read id = (.message m, h')) :
    ∃ feed rest, h.feed? id = some feed ∧ feed.mailbox.waiting = m :: rest ∧
      h' = h.alterFeed id fun s => { s with mailbox := { s.mailbox with waiting := rest } } := by
  unfold read at delivered
  split at delivered
  · simp at delivered
  · next feed found =>
    split at delivered
    · next first rest waiting =>
      simp only [Prod.mk.injEq, Delivery.message.injEq] at delivered
      obtain ⟨rfl, rfl⟩ := delivered
      exact ⟨feed, rest, found, waiting, rfl⟩
    · split at delivered <;> simp at delivered

/-- **A reader who gets to the end** of a stream has read everything, and leaves. -/
theorem read_eq_ended (found : h.feed? id = some feed) (delivered : h.read id = (.ended, h')) :
    feed.mailbox.waiting = [] ∧ feed.isOver = true ∧ h' = h.leave id := by
  simp only [read, found] at delivered
  split at delivered
  · simp at delivered
  · next nothing =>
    split at delivered
    · next ceased =>
      simp only [Prod.mk.injEq, true_and] at delivered
      exact ⟨nothing, ceased, delivered.symm⟩
    · simp at delivered

/-- A reader who finds nothing changes nothing. -/
theorem read_eq_nothing (delivered : h.read id = (.nothing, h')) : h' = h := by
  unfold read at delivered
  split at delivered
  · simp at delivered
  · split at delivered
    · simp at delivered
    · split at delivered
      · simp at delivered
      · exact (Prod.mk.inj delivered).2.symm

end Hub

end Server

/-! ## Answers and tokens -/

/-- **A request that goes by the token** of the run: a guarded call, or a look at the token. -/
def Request.IsHeedful : Request → Prop
  | .guarded _ | .check => True
  | _ => False

namespace Answered

variable {cancelled : Bool} {x : Answered}

/-- **What is answered at once**, without a call, while the token of a run is cancelled or not. -/
inductive AtOnce (cancelled : Bool) : Answered → Prop where
  /-- A guarded call is refused if the token is cancelled. -/
  | refused {c : Call} (stopped : cancelled = true) : AtOnce cancelled ⟨.guarded c, .refused⟩
  /-- A look at the token shows what it is. -/
  | check : AtOnce cancelled ⟨.check, cancelled⟩
  | clock (time : Nat) : AtOnce cancelled ⟨.clock, time⟩
  | now (time : Instant) : AtOnce cancelled ⟨.now, time⟩

/-- **How the wait for a call ends**, while the token of a run is cancelled or not. The token is
looked at before the answer, so that a guarded call has none once the token is cancelled. -/
inductive Arrives (cancelled : Bool) : Answered → Prop where
  | shielded {c : Call} (a : c.Answer) : Arrives cancelled ⟨.shielded c, a⟩
  | guarded {c : Call} (a : c.Answer) (free : cancelled = false) :
      Arrives cancelled ⟨.guarded c, .answered a⟩
  | interrupted {c : Call} (stopped : cancelled = true) :
      Arrives cancelled ⟨.guarded c, .interrupted⟩
  | inside {c : Call} (a : c.Answer) : Arrives cancelled ⟨.inside c, some a⟩
  | givenUp {c : Call} (stopped : cancelled = true) : Arrives cancelled ⟨.inside c, none⟩

/-- **Only a run whose token is cancelled** is shown a cancellation, at once -/
theorem AtOnce.cancelled_eq (h : x.AtOnce cancelled) (shows : x.ShowsCancellation) :
    cancelled = true := by
  cases h with
  | refused stopped => exact stopped
  | check => exact shows
  | clock | now => exact shows.elim

/-- or in the course of a call, -/
theorem Arrives.cancelled_eq (h : x.Arrives cancelled) (shows : x.ShowsCancellation) :
    cancelled = true := by
  cases h with
  | interrupted stopped | givenUp stopped => exact stopped
  | shielded => exact shows.elim
  | guarded => simp [ShowsCancellation] at shows
  | inside => simp [ShowsCancellation] at shows

/-- and it is shown one by every request that goes by the token, at once -/
theorem AtOnce.showsCancellation (h : x.AtOnce true) (heedful : x.request.IsHeedful) :
    x.ShowsCancellation := by
  cases h with
  | refused => exact .inl rfl
  | check => rfl
  | clock | now => exact heedful.elim

/-- or in the course of a call. -/
theorem Arrives.showsCancellation (h : x.Arrives true) (heedful : x.request.IsHeedful) :
    x.ShowsCancellation := by
  cases h with
  | interrupted => exact .inr rfl
  | guarded _ free => cases free
  | shielded | inside | givenUp => exact heedful.elim

/-- Nothing is told by what is answered at once, -/
theorem AtOnce.message?_eq_none (h : x.AtOnce cancelled) : x.message? = none := by
  cases h <;> rfl

/-- and nothing by a call. -/
theorem Arrives.message?_eq_none (h : x.Arrives cancelled) : x.message? = none := by
  cases h <;> rfl

/-- **Some answer arrives** to every call, whether the token is cancelled or not. -/
theorem exists_arrives {q : Request} (isCall : q.call?.isSome = true) (cancelled : Bool) :
    ∃ x : q.Answer, Arrives cancelled ⟨q, x⟩ := by
  have answer : ∀ c : Call, Nonempty c.Answer := by
    intro c
    cases c <;> exact inferInstance
  cases q with
  | shielded c =>
    obtain ⟨a⟩ := answer c
    exact ⟨a, .shielded a⟩
  | inside c =>
    obtain ⟨a⟩ := answer c
    exact ⟨some a, .inside a⟩
  | guarded c =>
    obtain ⟨a⟩ := answer c
    cases cancelled with
    | false => exact ⟨.answered a, .guarded a rfl⟩
    | true => exact ⟨.interrupted, .interrupted rfl⟩
  | check | clock | now | tell => cases isCall

end Answered

namespace Server

/-! ## A server with its runs -/

/-- **How far the run of a session is.** -/
inductive RunTask where
  /-- It goes on as this routine, and heeds this token. -/
  | running (token : CancelToken) (rest : Routine RunSummary)
  /-- It has started a call and waits for the answer. -/
  | waiting (token : CancelToken) (q : Request) (next : q.Answer → Routine RunSummary)
      (isCall : q.call?.isSome = true)
  /-- It is over and will tell nothing more; its session is still to be closed. -/
  | hungUp
  /-- It is over, and has closed its session. -/
  | done

namespace RunTask

/-- The token that a run heeds. -/
def token? : RunTask → Option CancelToken
  | running token _ => some token
  | waiting token _ _ _ => some token
  | hungUp => none
  | done => none

/-- **What is left of a run**, beginning with the request that it waits for. -/
def rest? : RunTask → Option (Routine RunSummary)
  | running _ rest => some rest
  | waiting _ q next _ => some (.ask q next)
  | hungUp => none
  | done => none

end RunTask

/-- **A server with the runs it has accepted**, by the names of their sessions. -/
structure Service where
  hub : Hub := {}
  tasks : String → Option RunTask := fun _ => none

/-- Notes how far the run of a session is. -/
def Service.setTask (s : Service) (id : String) (task : RunTask) : String → Option RunTask :=
  Function.update s.tasks id (some task)

/-- **What can happen** in a service. -/
inductive Happening where
  /-- A request is answered. -/
  | requested (r : WebRequest) (response : Response)
  /-- The run of a session tells something. -/
  | sent (id : String) (m : StreamMessage)
  /-- The run of a session starts a call. -/
  | started (id : String) (q : Request)
  /-- The run of a session gets an answer. -/
  | answered (id : String) (x : Answered)
  /-- The run of a session is over. -/
  | hungUp (id : String)
  /-- The run of a session closes it. -/
  | closed (id : String)
  /-- The reader of a stream reads a message. -/
  | received (id : String) (m : StreamMessage)
  /-- The reader of a stream gets to its end. -/
  | ended (id : String)
  /-- The reader of a stream leaves it. -/
  | left (id : String)

namespace Happening

/-- The session whose run or reader acts. -/
def about? : Happening → Option String
  | requested _ (.stream id) => some id
  | requested _ _ => none
  | sent id _ | started id _ | answered id _ | hungUp id | closed id | received id _ | ended id
  | left id => some id

/-- What the run of a session tells. -/
def sent? (id : String) : Happening → Option StreamMessage
  | sent x m => if x = id then some m else none
  | _ => none

/-- What the reader of a stream reads. -/
def received? (id : String) : Happening → Option StreamMessage
  | received x m => if x = id then some m else none
  | _ => none

end Happening

/-- **What the run of a session has told.** -/
def sentIn (past : List Happening) (id : String) : List StreamMessage :=
  past.filterMap (·.sent? id)

/-- **What the reader of a stream has read.** -/
def receivedIn (past : List Happening) (id : String) : List StreamMessage :=
  past.filterMap (·.received? id)

/-- A stream is being read. -/
def Hub.IsRead (h : Hub) (id : String) : Prop :=
  ∃ feed, h.feed? id = some feed ∧ feed.mailbox.hasReader = true

variable (setup : Setup) (engine : Engine) (time : Instant → Json)

/-- **What happens next.** The world answers the calls of a run as it likes, but whatever goes by the
token goes by the token that the run was started with; a reader who finds nothing waits. -/
inductive Step : Service → Happening → Service → Prop where
  /-- A request is answered; if it is one to run a test, the run starts. The name for its session
  has not been used before. -/
  | request {s : Service} {fresh : String} {startedAt : Instant} {r : WebRequest}
      {response : Response} {hub : Hub} {run : Option Launch} (new : s.tasks fresh = none)
      (answer : setup.respond s.hub time fresh startedAt r = (response, hub, run)) :
      Step s (.requested r response) ⟨hub, run.elim s.tasks fun run =>
        s.setTask fresh (.running run.token (engine.session run.request))⟩
  /-- A run tells something. -/
  | tell {s : Service} {id : String} {token : CancelToken} {m : StreamMessage}
      {next : (Request.tell m).Answer → Routine RunSummary}
      (task : s.tasks id = some (.running token (.ask (.tell m) next))) :
      Step s (.sent id m) ⟨s.hub.send id m, s.setTask id (.running token (next ()))⟩
  /-- A run starts a call, a guarded one only if its token is not cancelled. -/
  | start {s : Service} {id : String} {token : CancelToken} {q : Request}
      {next : q.Answer → Routine RunSummary}
      (task : s.tasks id = some (.running token (.ask q next))) (isCall : q.call?.isSome = true)
      (free : ∀ c, q = .guarded c → s.hub.registry.hasCancelled token = false) :
      Step s (.started id q) ⟨s.hub, s.setTask id (.waiting token q next isCall)⟩
  /-- A run gets the answer to a call that it has started. -/
  | answer {s : Service} {id : String} {token : CancelToken} {q : Request}
      {next : q.Answer → Routine RunSummary} {isCall : q.call?.isSome = true} {x : q.Answer}
      (task : s.tasks id = some (.waiting token q next isCall))
      (arrives : Answered.Arrives (s.hub.registry.hasCancelled token) ⟨q, x⟩) :
      Step s (.answered id ⟨q, x⟩) ⟨s.hub, s.setTask id (.running token (next x))⟩
  /-- A run gets an answer without a call. -/
  | look {s : Service} {id : String} {token : CancelToken} {q : Request}
      {next : q.Answer → Routine RunSummary} {x : q.Answer}
      (task : s.tasks id = some (.running token (.ask q next)))
      (atOnce : Answered.AtOnce (s.hub.registry.hasCancelled token) ⟨q, x⟩) :
      Step s (.answered id ⟨q, x⟩) ⟨s.hub, s.setTask id (.running token (next x))⟩
  /-- A run is over, and its stream will end. -/
  | hangUp {s : Service} {id : String} {token : CancelToken} {summary : RunSummary}
      (task : s.tasks id = some (.running token (.done summary))) :
      Step s (.hungUp id)
        ⟨s.hub.alterFeed id fun feed => { feed with isOver := true }, s.setTask id .hungUp⟩
  /-- A run that is over closes its session. -/
  | close {s : Service} {id : String} (task : s.tasks id = some .hungUp) :
      Step s (.closed id) ⟨(s.hub.close id).2, s.setTask id .done⟩
  /-- A reader reads a message. -/
  | read {s : Service} {id : String} {m : StreamMessage} {hub : Hub}
      (reader : s.hub.IsRead id) (delivered : s.hub.read id = (.message m, hub)) :
      Step s (.received id m) ⟨hub, s.tasks⟩
  /-- A reader gets to the end of the stream. -/
  | finish {s : Service} {id : String} {hub : Hub}
      (reader : s.hub.IsRead id) (delivered : s.hub.read id = (.ended, hub)) :
      Step s (.ended id) ⟨hub, s.tasks⟩
  /-- A reader leaves the stream. -/
  | leave {s : Service} {id : String} (reader : s.hub.IsRead id) :
      Step s (.left id) ⟨s.hub.leave id, s.tasks⟩

/-- **The states that a service gets to** from a state, each with everything that happens on the
way. -/
inductive Onward (s : Service) : List Happening → Service → Prop where
  | start : Onward s [] s
  | step {past : List Happening} {s₁ s₂ : Service} {e : Happening} (before : Onward s past s₁)
      (next : Step setup engine time s₁ e s₂) : Onward s (past ++ [e]) s₂

/-- **The states of a service**, each with everything that happened before. -/
abbrev Reaches : List Happening → Service → Prop := Onward setup engine time {}

variable {setup engine time} {s s' s₁ s₂ : Service} {past later : List Happening} {e : Happening}
  {id : String}

/-- A service goes on from where it got to. -/
theorem Onward.trans (first : Onward setup engine time s past s₁)
    (second : Onward setup engine time s₁ later s₂) :
    Onward setup engine time s (past ++ later) s₂ := by
  induction second with
  | start =>
    rw [List.append_nil]
    exact first
  | step before next ih =>
    rw [← List.append_assoc]
    exact ih.step next

/-- What happens next comes first. -/
theorem Onward.head (first : Step setup engine time s e s₁)
    (second : Onward setup engine time s₁ later s₂) :
    Onward setup engine time s (e :: later) s₂ :=
  Onward.trans (Onward.start.step first) second

@[simp] theorem Service.setTask_self {task : RunTask} : s.setTask id task id = some task :=
  Function.update_self ..

theorem Service.setTask_of_ne {task : RunTask} {other : String} (ne : id ≠ other) :
    s.setTask id task other = s.tasks other :=
  Function.update_of_ne ne.symm ..

/-- **A session is left alone**: its run, its stream, and it is not opened. -/
structure Service.Frame (id : String) (s s' : Service) : Prop where
  tasks_eq : s'.tasks id = s.tasks id
  feed_eq : s'.hub.feed? id = s.hub.feed? id
  get?_eq_none : s.hub.registry.get? id = none → s'.hub.registry.get? id = none

/-- To close any session does not open one. -/
theorem get?_close_eq_none {r : SessionRegistry} {other : String}
    (closed : r.get? id = none) : (r.close other).2.get? id = none := by
  by_cases same : other = id
  · rw [same]; exact SessionRegistry.get?_close_self
  · rw [SessionRegistry.get?_close_of_ne same]; exact closed

/-- **What happens to one session** leaves the others alone; a request to close it does so, too, as
far as its run and its reader are concerned. -/
theorem Step.frame (h : Step setup engine time s e s') (other : e.about? ≠ some id) :
    s.Frame id s' := by
  have apart : ∀ {x}, e.about? = some x → x ≠ id := fun about same =>
    other (about.trans (congrArg some same))
  cases h with
  | @request fresh startedAt r response hub run new answer =>
    obtain ⟨entry, run, id_eq, -, -, rfl, rfl, rfl⟩ | ⟨-, rfl, rfl | ⟨x, rfl⟩⟩ :=
      Setup.respond_cases answer
    · have ne : fresh ≠ id := apart rfl
      have entry_ne : entry.id ≠ id := id_eq ▸ ne
      exact ⟨Service.setTask_of_ne ne, Hub.feed?_accept_of_ne entry_ne, fun closed =>
        (SessionRegistry.get?_openSession_of_ne entry entry_ne).trans closed⟩
    · exact ⟨rfl, rfl, fun closed => closed⟩
    · exact ⟨rfl, rfl, get?_close_eq_none⟩
  | @tell x token m next task =>
    have ne : x ≠ id := apart rfl
    exact ⟨Service.setTask_of_ne ne, Hub.feed?_alterFeed_of_ne ne, fun closed => closed⟩
  | @start x | @answer x | @look x =>
    have ne : x ≠ id := apart rfl
    exact ⟨Service.setTask_of_ne ne, rfl, fun closed => closed⟩
  | @hangUp x token summary task =>
    have ne : x ≠ id := apart rfl
    exact ⟨Service.setTask_of_ne ne, Hub.feed?_alterFeed_of_ne ne, fun closed => closed⟩
  | @close x task =>
    have ne : x ≠ id := apart rfl
    exact ⟨Service.setTask_of_ne ne, rfl, get?_close_eq_none⟩
  | @read x m hub reader delivered =>
    have ne : x ≠ id := apart rfl
    obtain ⟨feed, rest, -, -, rfl⟩ := Hub.read_eq_message delivered
    exact ⟨rfl, Hub.feed?_alterFeed_of_ne ne, fun closed => closed⟩
  | @finish x hub reader delivered =>
    have ne : x ≠ id := apart rfl
    obtain ⟨feed, found, -⟩ := reader
    obtain ⟨-, -, rfl⟩ := Hub.read_eq_ended found delivered
    exact ⟨rfl, Hub.feed?_leave.trans (Hub.feed?_alterFeed_of_ne ne), get?_close_eq_none⟩
  | @leave x reader =>
    have ne : x ≠ id := apart rfl
    exact ⟨rfl, Hub.feed?_leave.trans (Hub.feed?_alterFeed_of_ne ne), get?_close_eq_none⟩

end Playback.Server
