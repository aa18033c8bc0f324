import Playback.Proofs.Server.Service
import Playback.Proofs.Server.Sessions
import Playback.Proofs.Session.Lifecycle
import Playback.Proofs.Session.Verdict

/-!
# What the reader of a stream gets

The messages of a run reach the reader of its stream in order, all of them and no others, whatever
else the service does meanwhile.

* `RunTask.HasTold` — **how far a run is and what it has told** go together;
* `Tracked` — **what is known of a session in use**: what was told has been read or waits, for as
  long as there is a reader; after that its session is closed;
* `known_of_reaches` — it is known of all sessions in every state that a service reaches;
* `service_delivers` — what a reader gets: at every moment a part of what was told from its
  beginning, and all of it at the end;
* `exists_ended` — a reader can always get to the end of the stream.
-/

namespace Playback.Server

open Routine

variable {setup : Setup} {engine : Engine} {time : Instant → Json} {past : List Happening}
  {s s' : Service} {e : Happening} {id : String}

/-! ## Runs and what they tell -/

/-- **A run has told** some messages and is so far: it is under way in a session of its own, or it
has told all that it had to tell. -/
inductive RunTask.HasTold (engine : Engine) (id : String) (task : RunTask) :
    List StreamMessage → Prop where
  | underWay {request : RunRequest} {rest : Routine RunSummary} {t : Transcript}
      (own : request.sessionId = id) (left : task.rest? = some rest)
      (onward : ∀ {u summary}, Yields rest u summary →
        Yields (engine.session request) (t ++ u) summary) :
      HasTold engine id task t.told
  | all {request : RunRequest} {t : Transcript} {summary : RunSummary}
      (own : request.sessionId = id) (whole : Yields (engine.session request) t summary)
      (ceased : task = .hungUp ∨ task = .done) :
      HasTold engine id task t.told

namespace RunTask

/-- The run has hung up. -/
def IsOver : RunTask → Prop
  | running _ _ => False
  | waiting _ _ _ _ => False
  | hungUp => True
  | done => True

/-- A run of which something is left is not over. -/
theorem not_isOver_of_rest {task : RunTask} {rest : Routine RunSummary}
    (left : task.rest? = some rest) : ¬ task.IsOver := by
  intro ceased
  cases task with
  | running | waiting => exact ceased
  | hungUp | done => cases left

namespace HasTold

variable {task task' : RunTask} {told : List StreamMessage} {rest : Routine RunSummary}

/-- A run that starts has told nothing. -/
theorem start (engine : Engine) (run : Launch) :
    HasTold engine run.request.sessionId (.running run.token (engine.session run.request)) [] :=
  underWay (t := []) rfl rfl fun yields => yields

/-- **A run of which something is left** has told so much that the rest makes it whole. -/
theorem onward (h : task.HasTold engine id told) (left : task.rest? = some rest) :
    ∃ request : RunRequest, ∃ t : Transcript, request.sessionId = id ∧ t.told = told ∧
      ∀ {u summary}, Yields rest u summary → Yields (engine.session request) (t ++ u) summary := by
  cases h with
  | @underWay request _ t own left' onward =>
    obtain rfl := Option.some.inj (left.symm.trans left')
    exact ⟨request, t, own, rfl, onward⟩
  | all own whole ceased => rcases ceased with rfl | rfl <;> cases left

/-- What a run has told depends on what is left of it. -/
theorem of_rest (h : task.HasTold engine id told) (left : task.rest? = some rest)
    (left' : task'.rest? = some rest) : task'.HasTold engine id told := by
  obtain ⟨request, t, own, rfl, onward⟩ := h.onward left
  exact underWay own left' onward

/-- A run that gets an answer goes on with it; what it told, if anything, has been told. -/
theorem answered {q : Request} {next : q.Answer → Routine RunSummary}
    (h : task.HasTold engine id told) (left : task.rest? = some (.ask q next)) (x : q.Answer)
    (left' : task'.rest? = some (next x)) :
    task'.HasTold engine id (told ++ (Answered.message? ⟨q, x⟩).toList) := by
  obtain ⟨request, t, own, rfl, onward⟩ := h.onward left
  have extended : t.told ++ (Answered.message? ⟨q, x⟩).toList =
      Transcript.told (t ++ [⟨q, x⟩]) := by simp
  rw [extended]
  refine underWay own left' fun {u summary} yields => ?_
  rw [List.append_assoc]
  exact onward (.ask x yields)

/-- A run that is done has told all. -/
theorem hangUp {summary : RunSummary} (h : task.HasTold engine id told)
    (left : task.rest? = some (.done summary)) : HasTold engine id .hungUp told := by
  obtain ⟨request, t, own, rfl, onward⟩ := h.onward left
  have whole := onward (.done summary)
  rw [List.append_nil] at whole
  exact all own whole (.inl rfl)

theorem close (h : HasTold engine id .hungUp told) : HasTold engine id .done told := by
  cases h with
  | underWay own left => cases left
  | all own whole ceased => exact all own whole (.inr rfl)

/-- **A run that is over has told** of its session first, then of its progress, and of its summary
last. -/
theorem conversation (h : task.HasTold engine id told) (ceased : task.IsOver) :
    ∃ testCase, ∃ events : List ProgressEvent, ∃ summary : RunSummary, summary.sessionId = id ∧
      told = .session id testCase :: (events.map .progress ++ [.summary summary]) := by
  cases h with
  | underWay own left => exact absurd ceased (not_isOver_of_rest left)
  | @all request t summary own whole _ =>
    have course := yields_session whole
    refine ⟨request.testCase, t.events, summary, ?_, ?_⟩
    · rw [← own]
      cases course <;> rfl
    · rw [← own]
      exact course.told_eq

end HasTold

end RunTask

/-! ## What is known of a session -/

/-- **What is known of a session in use**, when its run has told and its reader has got so much: of
the run, of the stream, and of the registry. -/
structure Tracked (engine : Engine) (id : String) (told got : List StreamMessage)
    (ended left : Prop) (registry : SessionRegistry) (task : RunTask) (feed : Feed) : Prop where
  /-- The run is as far as it has told. -/
  hasTold : task.HasTold engine id told
  /-- The stream will end exactly if the run has hung up. -/
  isOver_iff : feed.isOver = true ↔ task.IsOver
  /-- As long as there is a reader, all that was told has been read or waits. -/
  unread : feed.mailbox.hasReader = true →
    got ++ feed.mailbox.waiting = told ∧ ¬ ended ∧ ¬ left
  /-- Without a reader nothing waits, and the session is closed. -/
  deserted : feed.mailbox.hasReader = false →
    feed.mailbox.waiting = [] ∧ got <+: told ∧ registry.get? id = none
  /-- At the end of the stream all that was told has been read. -/
  whole : ended → task.IsOver ∧ got = told

/-- A message that is handed on drives no reader away. -/
theorem hasReader_hear (b : Mailbox) (m : StreamMessage) :
    (b.hear m).hasReader = b.hasReader := by
  unfold Mailbox.hear
  split <;> rfl

namespace Tracked

variable {told got : List StreamMessage} {ended left : Prop} {registry : SessionRegistry}
  {task : RunTask} {feed : Feed} {m : StreamMessage}

/-- A session that is opened has a run that has told nothing, and a reader. -/
theorem start (engine : Engine) (run : Launch) (registry : SessionRegistry) :
    Tracked engine run.request.sessionId [] [] False False registry
      (.running run.token (engine.session run.request)) {} where
  hasTold := .start engine run
  isOver_iff := by simp [RunTask.IsOver]
  unread := fun _ => ⟨rfl, not_false, not_false⟩
  deserted := fun reader => nomatch reader
  whole := False.elim

/-- To close any session does not open one. -/
theorem close (h : Tracked engine id told got ended left registry task feed) (other : String) :
    Tracked engine id told got ended left (registry.close other).2 task feed where
  hasTold := h.hasTold
  isOver_iff := h.isOver_iff
  unread := h.unread
  deserted := fun deserted =>
    have ⟨empty, part, closed⟩ := h.deserted deserted
    ⟨empty, part, get?_close_eq_none closed⟩
  whole := h.whole

/-- **A run tells something**: it waits to be read, if there is a reader. -/
theorem tell {token : CancelToken} {next : (Request.tell m).Answer → Routine RunSummary}
    (h : Tracked engine id told got ended left registry (.running token (.ask (.tell m) next))
      feed) :
    Tracked engine id (told ++ [m]) got ended left registry (.running token (next ()))
      { feed with mailbox := feed.mailbox.hear m } where
  hasTold := h.hasTold.answered rfl () rfl
  isOver_iff := h.isOver_iff
  unread := fun reader => by
    have before : feed.mailbox.hasReader = true := (hasReader_hear ..).symm.trans reader
    obtain ⟨eq, unended, unleft⟩ := h.unread before
    refine ⟨?_, unended, unleft⟩
    rw [Mailbox.hear, if_pos before, ← List.append_assoc, eq]
  deserted := fun deserted => by
    have before : feed.mailbox.hasReader = false := (hasReader_hear ..).symm.trans deserted
    obtain ⟨empty, part, closed⟩ := h.deserted before
    refine ⟨?_, part.trans (List.prefix_append _ _), closed⟩
    simpa [Mailbox.hear, before] using empty
  whole := fun done => (h.whole done).1.elim

/-- **A run goes on** and tells nothing: what was told stays as it is. -/
theorem goOn {rest rest' : Routine RunSummary} {task' : RunTask}
    (h : Tracked engine id told got ended left registry task feed)
    (hasTold : task'.HasTold engine id told) (before : task.rest? = some rest)
    (after : task'.rest? = some rest') :
    Tracked engine id told got ended left registry task' feed where
  hasTold := hasTold
  isOver_iff := by
    rw [h.isOver_iff, iff_false_intro (RunTask.not_isOver_of_rest before),
      iff_false_intro (RunTask.not_isOver_of_rest after)]
  unread := h.unread
  deserted := h.deserted
  whole := fun done => absurd (h.whole done).1 (RunTask.not_isOver_of_rest before)

/-- **A run gets an answer** that is no message. -/
theorem answered {q : Request} {next : q.Answer → Routine RunSummary} {x : q.Answer}
    {token : CancelToken} (h : Tracked engine id told got ended left registry task feed)
    (before : task.rest? = some (.ask q next)) (silent : Answered.message? ⟨q, x⟩ = none) :
    Tracked engine id told got ended left registry (.running token (next x)) feed := by
  have hasTold : RunTask.HasTold engine id (.running token (next x)) _ :=
    h.hasTold.answered before x rfl
  rw [silent, Option.toList_none, List.append_nil] at hasTold
  exact h.goOn hasTold before rfl

/-- **A run is over** and hangs up. -/
theorem hangUp {token : CancelToken} {summary : RunSummary}
    (h : Tracked engine id told got ended left registry (.running token (.done summary)) feed) :
    Tracked engine id told got ended left registry .hungUp { feed with isOver := true } where
  hasTold := h.hasTold.hangUp rfl
  isOver_iff := by simp [RunTask.IsOver]
  unread := h.unread
  deserted := h.deserted
  whole := fun done => (h.whole done).1.elim

/-- A run that is over closes its session. -/
theorem done (h : Tracked engine id told got ended left registry .hungUp feed) :
    Tracked engine id told got ended left registry .done feed where
  hasTold := h.hasTold.close
  isOver_iff := h.isOver_iff
  unread := h.unread
  deserted := h.deserted
  whole := h.whole

/-- **A reader reads** the first message that waits. -/
theorem read {rest : List StreamMessage}
    (h : Tracked engine id told got ended left registry task feed)
    (reader : feed.mailbox.hasReader = true) (waiting : feed.mailbox.waiting = m :: rest) :
    Tracked engine id told (got ++ [m]) ended left registry task
      { feed with mailbox := { feed.mailbox with waiting := rest } } where
  hasTold := h.hasTold
  isOver_iff := h.isOver_iff
  unread := fun reader => by
    obtain ⟨eq, unended, unleft⟩ := h.unread reader
    refine ⟨?_, unended, unleft⟩
    rw [← eq, waiting, List.append_assoc]
    rfl
  deserted := fun deserted => absurd (reader.symm.trans deserted) nofun
  whole := fun done => absurd done (h.unread reader).2.1

/-- **A reader leaves**, at the end of the stream or before: the session is closed. -/
theorem leave {ended' left' : Prop} (h : Tracked engine id told got ended left registry task feed)
    (reader : feed.mailbox.hasReader = true)
    (whole : ended' → task.IsOver ∧ feed.mailbox.waiting = []) :
    Tracked engine id told got ended' left' (registry.close id).2 task
      { feed with mailbox := feed.mailbox.leave } where
  hasTold := h.hasTold
  isOver_iff := h.isOver_iff
  unread := fun reader => nomatch reader
  deserted := fun _ => ⟨rfl, ⟨_, (h.unread reader).1⟩, SessionRegistry.get?_close_self⟩
  whole := fun done => by
    obtain ⟨ceased, empty⟩ := whole done
    exact ⟨ceased, by simpa [empty] using (h.unread reader).1⟩

end Tracked

/-- **What is known of a session**: its name has not been used, or it is in use. -/
inductive Known (engine : Engine) (past : List Happening) (s : Service) (id : String) : Prop where
  | unused (task_eq : s.tasks id = none) (feed_eq : s.hub.feed? id = none)
      (quiet : ∀ e ∈ past, e.about? ≠ some id)
  | used {task : RunTask} {feed : Feed} (task_eq : s.tasks id = some task)
      (feed_eq : s.hub.feed? id = some feed)
      (tracked : Tracked engine id (sentIn past id) (receivedIn past id) (.ended id ∈ past)
        (.left id ∈ past) s.hub.registry task feed)

@[simp] theorem sentIn_concat :
    sentIn (past ++ [e]) id = sentIn past id ++ (e.sent? id).toList := by
  cases told : e.sent? id <;> simp [sentIn, told]

@[simp] theorem receivedIn_concat :
    receivedIn (past ++ [e]) id = receivedIn past id ++ (e.received? id).toList := by
  cases got : e.received? id <;> simp [receivedIn, got]

/-- What is not about a session is neither told by its run nor read from its stream. -/
theorem Happening.eq_none_of_about (other : e.about? ≠ some id) :
    e.sent? id = none ∧ e.received? id = none := by
  cases e with
  | sent x m | received x m =>
    have ne : x ≠ id := fun same => other (same ▸ rfl)
    simp [sent?, received?, ne]
  | _ => exact ⟨rfl, rfl⟩

/-- Nothing was told or read of a session that nothing was about. -/
theorem eq_nil_of_quiet (quiet : ∀ e ∈ past, e.about? ≠ some id) :
    sentIn past id = [] ∧ receivedIn past id = [] :=
  ⟨List.filterMap_eq_nil_iff.2 fun e mem => (Happening.eq_none_of_about (quiet e mem)).1,
    List.filterMap_eq_nil_iff.2 fun e mem => (Happening.eq_none_of_about (quiet e mem)).2⟩

/-! ## Every state that a service reaches -/

/-- A service that has just started knows of no session. -/
theorem known_start (engine : Engine) (id : String) : Known engine [] {} id :=
  .unused rfl rfl fun _ mem => nomatch mem

namespace Known

/-- **What happens to others** leaves what is known as it is. -/
theorem frame (h : Known engine past s id) (frame : s.Frame id s') (other : e.about? ≠ some id) :
    Known engine (past ++ [e]) s' id := by
  obtain ⟨silent, unheard⟩ := Happening.eq_none_of_about other
  cases h with
  | unused task_eq feed_eq quiet =>
    refine .unused (frame.tasks_eq.trans task_eq) (frame.feed_eq.trans feed_eq) ?_
    simpa [or_imp, forall_and] using ⟨quiet, other⟩
  | used task_eq feed_eq tracked =>
    have differs : ∀ x : Happening, x.about? = some id → (x ∈ past ++ [e] ↔ x ∈ past) := by
      intro x about
      have ne : x ≠ e := fun same => other (same ▸ about)
      simp [ne]
    refine .used (frame.tasks_eq.trans task_eq) (frame.feed_eq.trans feed_eq) ?_
    rw [sentIn_concat, receivedIn_concat, silent, unheard, differs _ rfl, differs _ rfl]
    exact {
      hasTold := by simpa using tracked.hasTold
      isOver_iff := tracked.isOver_iff
      unread := by simpa using tracked.unread
      deserted := fun deserted =>
        have ⟨empty, part, closed⟩ := tracked.deserted deserted
        ⟨empty, by simpa using part, frame.get?_eq_none closed⟩
      whole := by simpa using tracked.whole }

/-- A session whose run is so far is in use. -/
theorem of_task {task : RunTask} (h : Known engine past s id) (task_eq : s.tasks id = some task) :
    ∃ feed, s.hub.feed? id = some feed ∧
      Tracked engine id (sentIn past id) (receivedIn past id) (.ended id ∈ past)
        (.left id ∈ past) s.hub.registry task feed := by
  cases h with
  | unused unused => exact nomatch unused.symm.trans task_eq
  | used known feed_eq tracked =>
    obtain rfl := Option.some.inj (known.symm.trans task_eq)
    exact ⟨_, feed_eq, tracked⟩

/-- A session whose stream is there is in use. -/
theorem of_feed {feed : Feed} (h : Known engine past s id) (feed_eq : s.hub.feed? id = some feed) :
    ∃ task, s.tasks id = some task ∧
      Tracked engine id (sentIn past id) (receivedIn past id) (.ended id ∈ past)
        (.left id ∈ past) s.hub.registry task feed := by
  cases h with
  | unused task_eq unused => exact nomatch unused.symm.trans feed_eq
  | used task_eq known tracked =>
    obtain rfl := Option.some.inj (known.symm.trans feed_eq)
    exact ⟨_, task_eq, tracked⟩

/-- **What is known of a session stays known**, whatever happens next. -/
theorem step (h : Known engine past s id) (next : Step setup engine time s e s') :
    Known engine (past ++ [e]) s' id := by
  by_cases about : e.about? = some id
  swap
  · exact h.frame (next.frame about) about
  -- what is about this session, one case for each way that its run or its reader can act
  cases next with
  | @request fresh startedAt r response hub run new answer =>
    obtain ⟨entry, run, id_eq, sessionId_eq, -, rfl, rfl, rfl⟩ | ⟨plain, -⟩ :=
      Setup.respond_cases answer
    swap
    · cases response with
      | stream x => exact absurd rfl (plain x)
      | _ => exact nomatch about
    obtain rfl : fresh = id := Option.some.inj about
    cases h with
    | used task_eq => exact nomatch new.symm.trans task_eq
    | unused task_eq feed_eq quiet =>
      obtain ⟨told, got⟩ := eq_nil_of_quiet quiet
      have unended : .ended fresh ∉ past := fun mem => quiet _ mem rfl
      have unleft : .left fresh ∉ past := fun mem => quiet _ mem rfl
      refine .used (Service.setTask_self ..) (id_eq ▸ Hub.feed?_accept_self (id_eq ▸ feed_eq)) ?_
      simpa [told, got, Happening.sent?, Happening.received?, unended, unleft, sessionId_eq] using
        Tracked.start engine run (s.hub.accept entry).registry
  | @tell x token m next task_eq =>
    obtain rfl : x = id := Option.some.inj about
    obtain ⟨feed, feed_eq, tracked⟩ := h.of_task task_eq
    refine .used (Service.setTask_self ..) (Hub.feed?_alterFeed_self.trans (by rw [feed_eq]; rfl)) ?_
    simpa [Happening.sent?, Happening.received?] using tracked.tell
  | @start x token q next task_eq isCall free =>
    obtain rfl : x = id := Option.some.inj about
    obtain ⟨feed, feed_eq, tracked⟩ := h.of_task task_eq
    refine .used (Service.setTask_self ..) feed_eq ?_
    have hasTold : RunTask.HasTold engine x (.waiting token q next isCall) _ :=
      tracked.hasTold.of_rest rfl rfl
    simpa [Happening.sent?, Happening.received?] using tracked.goOn hasTold rfl rfl
  | @answer x token q next isCall answer task_eq arrives =>
    obtain rfl : x = id := Option.some.inj about
    obtain ⟨feed, feed_eq, tracked⟩ := h.of_task task_eq
    refine .used (Service.setTask_self ..) feed_eq ?_
    simpa [Happening.sent?, Happening.received?] using
      tracked.answered rfl arrives.message?_eq_none
  | @look x token q next answer task_eq atOnce =>
    obtain rfl : x = id := Option.some.inj about
    obtain ⟨feed, feed_eq, tracked⟩ := h.of_task task_eq
    refine .used (Service.setTask_self ..) feed_eq ?_
    simpa [Happening.sent?, Happening.received?] using
      tracked.answered rfl atOnce.message?_eq_none
  | @hangUp x token summary task_eq =>
    obtain rfl : x = id := Option.some.inj about
    obtain ⟨feed, feed_eq, tracked⟩ := h.of_task task_eq
    refine .used (Service.setTask_self ..) (Hub.feed?_alterFeed_self.trans (by rw [feed_eq]; rfl)) ?_
    simpa [Happening.sent?, Happening.received?] using tracked.hangUp
  | @close x task_eq =>
    obtain rfl : x = id := Option.some.inj about
    obtain ⟨feed, feed_eq, tracked⟩ := h.of_task task_eq
    refine .used (Service.setTask_self ..) feed_eq ?_
    simpa [Happening.sent?, Happening.received?] using (tracked.close x).done
  | @read x m hub reader delivered =>
    obtain rfl : x = id := Option.some.inj about
    obtain ⟨feed, rest, feed_eq, waiting, rfl⟩ := Hub.read_eq_message delivered
    obtain ⟨task, task_eq, tracked⟩ := h.of_feed feed_eq
    obtain ⟨_, same, hasReader⟩ := reader
    obtain rfl := Option.some.inj (feed_eq.symm.trans same)
    refine .used task_eq (Hub.feed?_alterFeed_self.trans (by rw [feed_eq]; rfl)) ?_
    simpa [Happening.sent?, Happening.received?] using tracked.read hasReader waiting
  | @finish x hub reader delivered =>
    obtain rfl : x = id := Option.some.inj about
    obtain ⟨feed, feed_eq, hasReader⟩ := reader
    obtain ⟨empty, ceased, rfl⟩ := Hub.read_eq_ended feed_eq delivered
    obtain ⟨task, task_eq, tracked⟩ := h.of_feed feed_eq
    refine .used task_eq
      (Hub.feed?_leave.trans (Hub.feed?_alterFeed_self.trans (by rw [feed_eq]; rfl))) ?_
    simpa [Happening.sent?, Happening.received?] using
      tracked.leave hasReader fun _ => ⟨tracked.isOver_iff.1 ceased, empty⟩
  | @leave x reader =>
    obtain rfl : x = id := Option.some.inj about
    obtain ⟨feed, feed_eq, hasReader⟩ := reader
    obtain ⟨task, task_eq, tracked⟩ := h.of_feed feed_eq
    refine .used task_eq
      (Hub.feed?_leave.trans (Hub.feed?_alterFeed_self.trans (by rw [feed_eq]; rfl))) ?_
    simpa [Happening.sent?, Happening.received?] using
      tracked.leave hasReader fun ended => absurd ended (tracked.unread hasReader).2.1

end Known

/-- **What is known** holds of every session in every state that a service reaches. -/
theorem known_of_reaches (reached : Reaches setup engine time past s) (id : String) :
    Known engine past s id := by
  induction reached with
  | start => exact known_start engine id
  | step before next ih => exact ih.step next

/-! ## What a reader gets -/

/-- **What the reader of a stream gets**, when so much has happened. -/
structure Delivers (past : List Happening) (s : Service) (id : String) : Prop where
  /-- What was read is what the run has told, from its beginning. -/
  received_prefix : receivedIn past id <+: sentIn past id
  /-- While there is a reader, the rest of it waits to be read. -/
  unread : ∀ {feed}, s.hub.feed? id = some feed → feed.mailbox.hasReader = true →
    receivedIn past id ++ feed.mailbox.waiting = sentIn past id
  /-- Who got to the end of the stream has read of the session first, then of its progress, and the
  summary of that session last. -/
  whole : .ended id ∈ past → ∃ testCase, ∃ events : List ProgressEvent, ∃ summary : RunSummary,
    summary.sessionId = id ∧
      receivedIn past id = .session id testCase :: (events.map .progress ++ [.summary summary])
  /-- When the stream has ended or was left, the session is not open any more. -/
  closed : .ended id ∈ past ∨ .left id ∈ past → s.hub.registry.get? id = none

/-- **A service delivers** what its runs tell to the readers of their streams, in every state that
it reaches. -/
theorem service_delivers (reached : Reaches setup engine time past s) (id : String) :
    Delivers past s id := by
  cases known_of_reaches reached id with
  | unused task_eq feed_eq quiet =>
    obtain ⟨told, got⟩ := eq_nil_of_quiet quiet
    refine ⟨by simp [told, got], fun found => ?_, fun ended => ?_, ?_⟩
    · exact nomatch feed_eq.symm.trans found
    · exact absurd rfl (quiet _ ended)
    · rintro (ended | left)
      · exact absurd rfl (quiet _ ended)
      · exact absurd rfl (quiet _ left)
  | @used task feed task_eq feed_eq tracked =>
    constructor
    · cases reader : feed.mailbox.hasReader with
      | true => exact ⟨_, (tracked.unread reader).1⟩
      | false => exact (tracked.deserted reader).2.1
    · intro feed' found reader
      obtain rfl := Option.some.inj (feed_eq.symm.trans found)
      exact (tracked.unread reader).1
    · intro ended
      obtain ⟨ceased, all⟩ := tracked.whole ended
      rw [all]
      exact tracked.hasTold.conversation ceased
    · intro gone
      cases reader : feed.mailbox.hasReader with
      | true => exact absurd gone (not_or.2 (tracked.unread reader).2)
      | false => exact (tracked.deserted reader).2.2

/-! ## Readers can get to the end -/

/-- Who reads a stream reads it still after a change of any stream that drives no reader away. -/
theorem Hub.IsRead.alterFeed {h : Hub} {f : Feed → Feed} {other : String} (reader : h.IsRead id)
    (keeps : ∀ feed, (f feed).mailbox.hasReader = feed.mailbox.hasReader) :
    (h.alterFeed other f).IsRead id := by
  obtain ⟨feed, feed_eq, hasReader⟩ := reader
  by_cases own : other = id
  · subst own
    exact ⟨f feed, by rw [feed?_alterFeed_self, feed_eq]; rfl, (keeps feed).trans hasReader⟩
  · exact ⟨feed, (feed?_alterFeed_of_ne own).trans feed_eq, hasReader⟩

/-- **A run can go on with some answer** to a request that tells nothing: the wait for a call ends, and
the rest is answered at once. -/
theorem exists_answered {token : CancelToken} {q : Request} {next : q.Answer → Routine RunSummary}
    (setup : Setup) (engine : Engine) (time : Instant → Json)
    (task_eq : s.tasks id = some (.running token (.ask q next))) (quiet : ∀ m, q ≠ .tell m) :
    ∃ later s', Onward setup engine time s later s' ∧ s'.hub = s.hub ∧
      ∃ x, s'.tasks id = some (.running token (next x)) := by
  have atOnce : ∀ x, Answered.AtOnce (s.hub.registry.hasCancelled token) ⟨q, x⟩ →
      ∃ later s', Onward setup engine time s later s' ∧ s'.hub = s.hub ∧
        ∃ x, s'.tasks id = some (.running token (next x)) :=
    fun x atOnce => ⟨_, _, Onward.start.step (.look task_eq atOnce), rfl, x, Service.setTask_self⟩
  have called : ∀ _ : q.call?.isSome = true,
      (∀ c, q = .guarded c → s.hub.registry.hasCancelled token = false) →
      ∃ later s', Onward setup engine time s later s' ∧ s'.hub = s.hub ∧
        ∃ x, s'.tasks id = some (.running token (next x)) := by
    intro isCall free
    obtain ⟨x, arrives⟩ := Answered.exists_arrives isCall (s.hub.registry.hasCancelled token)
    exact ⟨_, _, (Onward.start.step (.start task_eq isCall free)).step
      (.answer Service.setTask_self arrives), rfl, x, Service.setTask_self⟩
  cases q with
  | shielded c | inside c => exact called rfl fun c same => Request.noConfusion same
  | guarded c =>
    cases cancelled : s.hub.registry.hasCancelled token with
    | true => exact atOnce .refused (.refused cancelled)
    | false => exact called rfl fun _ _ => cancelled
  | check => exact atOnce _ .check
  | clock => exact atOnce 0 (.clock 0)
  | now => exact atOnce default (.now default)
  | tell m => exact absurd rfl (quiet m)

/-- A run can go on until it hangs up, and its reader need not leave. -/
theorem exists_hungUp {token : CancelToken} {rest : Routine RunSummary}
    (task_eq : s.tasks id = some (.running token rest)) (reader : s.hub.IsRead id) :
    ∃ later s', Onward setup engine time s later s' ∧
      s'.tasks id = some .hungUp ∧ s'.hub.IsRead id := by
  -- on what is left of the run: whatever it is answered, it is nearer to its end
  induction rest generalizing s with
  | done summary =>
    exact ⟨_, _, Onward.start.step (.hangUp task_eq), Service.setTask_self,
      reader.alterFeed fun _ => rfl⟩
  | ask q next ih =>
    by_cases tells : ∃ m, q = .tell m
    · obtain ⟨m, rfl⟩ := tells
      have told : Step setup engine time s (.sent id m)
          ⟨s.hub.send id m, s.setTask id (.running token (next ()))⟩ := .tell task_eq
      obtain ⟨later, s', onward, task', reader'⟩ :=
        ih () (s := ⟨s.hub.send id m, s.setTask id (.running token (next ()))⟩) Service.setTask_self
          (reader.alterFeed fun feed => hasReader_hear feed.mailbox m)
      exact ⟨_, s', onward.head told, task', reader'⟩
    · obtain ⟨first, s₁, onward₁, hub_eq, x, task₁⟩ :=
        exists_answered setup engine time task_eq fun m same => tells ⟨m, same⟩
      obtain ⟨later, s', onward, task', reader'⟩ := ih x task₁ (hub_eq ▸ reader)
      exact ⟨_, s', onward₁.trans onward, task', reader'⟩

/-- A reader can read all that waits, and gets to the end if the run is over. -/
theorem exists_ended_of_over {feed : Feed} (feed_eq : s.hub.feed? id = some feed)
    (reader : feed.mailbox.hasReader = true) (ceased : feed.isOver = true) :
    ∃ later s', Onward setup engine time s later s' ∧ .ended id ∈ later := by
  obtain ⟨⟨waiting, hasReader⟩, isOver⟩ := feed
  obtain rfl : hasReader = true := reader
  obtain rfl : isOver = true := ceased
  induction waiting generalizing s with
  | nil =>
    have delivered : s.hub.read id = (.ended, s.hub.leave id) := by simp [Hub.read, feed_eq]
    exact ⟨_, _, Onward.start.step (.finish ⟨_, feed_eq, rfl⟩ delivered), List.mem_singleton.2 rfl⟩
  | cons m rest ih =>
    have delivered : s.hub.read id = (.message m, s.hub.alterFeed id fun feed =>
        { feed with mailbox := { feed.mailbox with waiting := rest } }) := by
      simp [Hub.read, feed_eq]
    have read : Step setup engine time s (.received id m) ⟨_, s.tasks⟩ :=
      .read ⟨_, feed_eq, rfl⟩ delivered
    obtain ⟨later, s', onward, ended⟩ := ih (s := ⟨s.hub.alterFeed id fun feed =>
        { feed with mailbox := { feed.mailbox with waiting := rest } }, s.tasks⟩)
      (by rw [Hub.feed?_alterFeed_self, feed_eq]; rfl)
    exact ⟨_, s', onward.head read, List.mem_cons_of_mem _ ended⟩

/-- **A reader can always get to the end** of the stream, whatever has happened before. -/
theorem exists_ended (reached : Reaches setup engine time past s) (reader : s.hub.IsRead id) :
    ∃ later s', Reaches setup engine time (past ++ later) s' ∧ .ended id ∈ later := by
  have finished : ∀ {past s} (_ : Reaches setup engine time past s) {task : RunTask},
      s.tasks id = some task → task.IsOver → s.hub.IsRead id →
      ∃ later s', Onward setup engine time s later s' ∧ .ended id ∈ later := by
    rintro past s reached task task_eq ceased ⟨feed, feed_eq, hasReader⟩
    obtain ⟨_, same, tracked⟩ := (known_of_reaches reached id).of_task task_eq
    obtain rfl := Option.some.inj (feed_eq.symm.trans same)
    exact exists_ended_of_over feed_eq hasReader (tracked.isOver_iff.2 ceased)
  have running : ∀ {past s} (_ : Reaches setup engine time past s) {token : CancelToken}
      {rest : Routine RunSummary}, s.tasks id = some (.running token rest) → s.hub.IsRead id →
      ∃ later s', Onward setup engine time s later s' ∧ .ended id ∈ later := by
    intro past s reached token rest task_eq reader
    obtain ⟨later, s₁, onward₁, task₁, reader₁⟩ := exists_hungUp task_eq reader
    obtain ⟨last, s₂, onward₂, ended⟩ := finished (reached.trans onward₁) task₁ trivial reader₁
    exact ⟨_, s₂, onward₁.trans onward₂, List.mem_append_right _ ended⟩
  have ⟨feed, feed_eq, hasReader⟩ := reader
  obtain ⟨task, task_eq, -⟩ := (known_of_reaches reached id).of_feed feed_eq
  suffices ∃ later s', Onward setup engine time s later s' ∧ .ended id ∈ later by
    obtain ⟨later, s', onward, ended⟩ := this
    exact ⟨later, s', reached.trans onward, ended⟩
  cases task with
  | running token rest => exact running reached task_eq reader
  | waiting token q next isCall =>
    -- the wait of the run ends, whether its token is cancelled or not
    obtain ⟨x, arrives⟩ := Answered.exists_arrives isCall (s.hub.registry.hasCancelled token)
    have answered : Step setup engine time s (.answered id ⟨q, x⟩)
        ⟨s.hub, s.setTask id (.running token (next x))⟩ := .answer task_eq arrives
    obtain ⟨later, s', onward, ended⟩ :=
      running (reached.step answered) Service.setTask_self reader
    exact ⟨_, s', onward.head answered, List.mem_cons_of_mem _ ended⟩
  | hungUp => exact finished reached task_eq trivial reader
  | done => exact finished reached task_eq trivial reader

/-- A run can be accepted, its session be closed by a request at once, and its reader get to the end
of the stream all the same. -/
theorem exists_ended_of_deleted {fresh other : String} {startedAt : Instant} {r deletion : WebRequest}
    (accepted : (setup.respond {} time fresh startedAt r).2.2.isSome = true)
    (closing : deletion.closing? = some fresh) (ne : other ≠ fresh) :
    ∃ past s, Reaches setup engine time past s ∧
      (∃ response, .requested deletion response ∈ past ∧ response.status = 204) ∧
      .ended fresh ∈ past := by
  obtain ⟨⟨response, hub, run⟩, answer⟩ : ∃ x, setup.respond {} time fresh startedAt r = x :=
    ⟨_, rfl⟩
  obtain ⟨entry, run, rfl, -, -, rfl, rfl, rfl⟩ | ⟨-, rfl, -⟩ := Setup.respond_cases answer
  swap
  · exact absurd accepted (by rw [answer]; exact Bool.false_ne_true)
  have accepts : Step setup engine time {} (.requested r (.stream entry.id))
      ⟨Hub.accept {} entry, (some run).elim (fun _ => none) fun run =>
        Service.setTask {} entry.id (.running run.token (engine.session run.request))⟩ :=
    .request rfl answer
  have started : Reaches setup engine time ([] ++ [.requested r (.stream entry.id)])
      ⟨Hub.accept {} entry,
        Service.setTask {} entry.id (.running run.token (engine.session run.request))⟩ :=
    Onward.start.step accepts
  -- the name that is ready for another session is not used
  have unused : Service.setTask {} entry.id
      (.running run.token (engine.session run.request)) other = none := Service.setTask_of_ne ne.symm
  have answer' : setup.respond (Hub.accept {} entry) time other startedAt deletion =
      ((Setup.closeSession (Hub.accept {} entry) entry.id).1,
        (Setup.closeSession (Hub.accept {} entry) entry.id).2, none) :=
    Setup.respond_of_closing closing (Hub.accept {} entry) time
  have deleted := started.step (.request unused answer')
  rw [Setup.closeSession_eq] at deleted
  have closes : ((Hub.accept {} entry).close entry.id).1 = true := by
    change ((Hub.accept {} entry).registry.close entry.id).1 = true
    rw [SessionRegistry.close_fst]
    exact congrArg Option.isSome (SessionRegistry.get?_openSession_self entry rfl)
  rw [closes, if_pos rfl] at deleted
  obtain ⟨later, s, reached, ended⟩ :=
    exists_ended deleted ⟨{}, Hub.feed?_accept_self rfl, rfl⟩
  exact ⟨_, s, reached, ⟨.bare 204, by simp, rfl⟩, List.mem_append_right _ ended⟩

/-- A run is accepted and its session closed by a request at once; its reader gets to the end of the
stream all the same, and has got all of it. -/
theorem delivers_of_deleted :
    ∃ past s, Reaches .single .standard (fun _ => .null) past s ∧
      (∃ response, .requested (Setup.delete "a") response ∈ past ∧ response.status = 204) ∧
      .ended "a" ∈ past ∧ Delivers past s "a" := by
  have accepted :
      (Setup.single.respond {} (fun _ => .null) "a" ⟨2, 0⟩ Setup.runSingle).2.2.isSome = true := by
    decide +kernel
  have closing : (Setup.delete "a").closing? = some "a" := by decide +kernel
  have ne : "b" ≠ "a" := by decide
  obtain ⟨past, s, reached, deleted, ended⟩ := exists_ended_of_deleted accepted closing ne
  exact ⟨past, s, reached, deleted, ended, service_delivers reached "a"⟩

end Playback.Server
