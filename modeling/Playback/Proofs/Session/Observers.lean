import Playback.Console.Report
import Playback.Proofs.Handler.Details
import Playback.Proofs.Routine.Observed
import Playback.Proofs.Session.Lifecycle

/-!
# The observers of a session

Whatever hears a session makes the same story of it, and none of its hearers is noticed.

* `Mailbox.heard_observer`, `Memory.heard_observer`, `Output.heard_observer` — what a mailbox, a
  record and a console make of messages;
* `RunRequest.tale` — **the messages of a session**;
* `Retold` — **what the observers make of a session**, message by message the same;
* `Deserted` — **what becomes of a session that its reader leaves**;
* `session_retold` — all observers of a session are told the same, and none is noticed.
-/

namespace Playback

open Routine

/-! ## Observers of messages -/

/-- A mailbox with a reader keeps all messages, in order. -/
theorem Mailbox.heard_observer (messages before : List StreamMessage) :
    observer.heard { waiting := before } messages = { waiting := before ++ messages } := by
  induction messages generalizing before with
  | nil =>
    rw [List.append_nil]
    rfl
  | cons m messages ih =>
    have following := ih (before ++ [m])
    rw [List.append_assoc] at following
    exact following

/-- A record has all events, in order. -/
theorem Memory.heard_observer (events : List ProgressEvent) (m : Memory) :
    observer.heard m (events.map .progress) = { m with events := m.events ++ events } := by
  induction events generalizing m with
  | nil =>
    rw [List.append_nil]
    rfl
  | cons e events ih =>
    have following := ih { m with events := m.events ++ [e] }
    rw [List.append_assoc] at following
    exact following

/-- The observer that writes on a console. -/
def Output.observer (format : OutputFormat) (styled : Bool) : Observer Output :=
  .ofHear (hear format styled)

/-- **The line of a message**: its compact text, and the end of the line. -/
def StreamMessage.line (m : StreamMessage) : String := m.encode.compact ++ "\n"

/-- There is no control character in the text of a message. -/
theorem StreamMessage.not_mem_compact (m : StreamMessage) {c : Char} (control : c.toNat < 32) :
    c ∉ m.encode.compact.toList := by
  rw [Json.compact, String.toList_ofList]
  exact fun hmem => Nat.not_le.2 control (Json.isPrintable_compact m.encode c hmem)

/-- A console has one line of JSON per message, in order. -/
theorem Output.heard_observer (styled : Bool) (messages : List StreamMessage) (o : Output) :
    (observer .json styled).heard o messages =
      { o with stdout := o.stdout ++ String.join (messages.map StreamMessage.line) } := by
  induction messages generalizing o with
  | nil =>
    rw [List.map_nil, String.join_nil, String.append_empty]
    rfl
  | cons m messages ih =>
    have first : (observer .json styled).hear o m = { o with stdout := o.stdout ++ m.line } := by
      rw [StreamMessage.line, ← String.append_assoc]
      rfl
    have following := ih { o with stdout := o.stdout ++ m.line }
    rw [String.append_assoc] at following
    rw [List.map_cons, String.join_cons, Observer.heard, List.foldl_cons, first]
    exact following

/-! ## The tale of a session -/

/-- **The messages of a session**: the session, its progress, and its summary. -/
def RunRequest.tale (request : RunRequest) (events : List ProgressEvent) (summary : RunSummary) :
    List StreamMessage :=
  .session request.sessionId request.testCase :: (events.map .progress ++ [.summary summary])

/-- **What the observers of a session make of it**, given what they are told. -/
structure Retold (styled : Bool) (request : RunRequest) (told : List StreamMessage)
    (events : List ProgressEvent) (summary : RunSummary) : Prop where
  /-- A mailbox with a reader delivers the session, its progress and its summary. -/
  delivered : Mailbox.observer.heard {} told = { waiting := request.tale events summary }
  /-- A record has the same events, the same session, and the same summary. -/
  recorded : Memory.observer.heard {} told =
    { events, sessions := [request.sessionId], summary := some summary }
  /-- A console has a line of JSON for each of the messages, in order, and nothing else. -/
  printed : (Output.observer .json styled).heard {} told =
    { stdout := String.join ((request.tale events summary).map StreamMessage.line) }
  /-- No line is broken. -/
  unbroken : ∀ m ∈ request.tale events summary, '\n' ∉ m.encode.compact.toList ∧
    '\r' ∉ m.encode.compact.toList
  /-- **Each line is decoded as its message**, if the numbers in it are read back. -/
  decoded : ∀ m ∈ request.tale events summary, m.encode.NumbersKept →
    Wire.ofText StreamMessage.decode m.encode.compact = .ok m

namespace SessionCourse

variable {engine : Engine} {request : RunRequest} {t : Transcript} {summary : RunSummary}

/-- **The reports of a session** give details that come back. -/
theorem legible (h : SessionCourse engine request t summary) {e : ProgressEvent}
    (reported : e ∈ t.events) : e.Legible := by
  cases h with
  | unopened lead =>
    rw [Transcript.events_append, lead.events_eq_nil] at reported
    exact nomatch reported
  | abandoned lead =>
    rw [Transcript.events_append, lead.events_eq_nil] at reported
    exact nomatch reported
  | @played t₀ u started finished outcome closed lead steps =>
    rw [Transcript.events_append, Transcript.events_append, lead.events_eq_nil] at reported
    have stepped : e ∈ Transcript.events u := by
      simpa [Answered.event?, Answered.message?, Answered.summing] using reported
    exact legible_of_yields_interpret steps stepped

/-- So do all its messages. -/
theorem legible_of_mem_tale (h : SessionCourse engine request t summary) {m : StreamMessage}
    (hm : m ∈ request.tale t.events summary) : m.Legible := by
  rcases List.mem_cons.1 hm with rfl | hm
  · trivial
  rcases List.mem_append.1 hm with hm | hm
  · obtain ⟨e, reported, rfl⟩ := List.mem_map.1 hm
    exact h.legible reported
  · rw [List.mem_singleton.1 hm]
    trivial

/-- **The observers of a session** make the same of it. -/
theorem retold (h : SessionCourse engine request t summary) (styled : Bool) :
    Retold styled request t.told t.events summary := by
  have told : t.told = request.tale t.events summary := h.told_eq
  rw [told]
  refine ⟨Mailbox.heard_observer _ [], ?_, ?_, fun m _ => ⟨m.not_mem_compact (by decide),
    m.not_mem_compact (by decide)⟩, fun m hm kept => ?_⟩
  · have progress := Memory.heard_observer t.events { sessions := [request.sessionId] }
    rw [List.nil_append] at progress
    rw [RunRequest.tale, Observer.heard, List.foldl_cons, List.foldl_append]
    exact congrArg (Memory.observer.hear · (.summary summary)) progress
  · rw [Output.heard_observer, String.empty_append]
  · exact StreamMessage.ofText_compact (h.legible_of_mem_tale hm) kept

end SessionCourse

/-- **A session that its reader leaves**, after some of the moments at which that may happen. -/
structure Deserted {σ : Type} (engine : Engine) (request : RunRequest) (e : Setting σ) (s : σ)
    (n : Nat) : Prop where
  /-- The session makes the same calls at the same times, reports the same and comes to the same
  summary as if nobody had listened. -/
  unnoticed : Mailbox.leaving.Unnoticed e (engine.session request) s (n, {})
  /-- Nothing is kept for a reader that has left, -/
  left : n < e.moments (engine.session request) s →
    ((e.observed Mailbox.leaving).world.run (engine.session request) (s, n, {})).2.2.2 =
      Mailbox.leave {}
  /-- and the whole session for one that has not. -/
  stayed : e.moments (engine.session request) s ≤ n →
    ((e.observed Mailbox.leaving).world.run (engine.session request) (s, n, {})).2.2.2 =
      { waiting := request.tale (e.world.events (engine.session request) s)
          (e.world.run (engine.session request) s).1 }

/-- **A reader may leave a session** at any of its moments, or at none. -/
theorem deserted {σ : Type} (engine : Engine) (request : RunRequest) (e : Setting σ) (s : σ)
    (n : Nat) : Deserted engine request e s n where
  unnoticed := Mailbox.unnoticed_leaving e (engine.session request) s n
  left leaves := by rw [e.run_leaving, if_pos leaves]
  stayed stays := by
    have course := yields_session (e.world.yields (engine.session request) s)
    rw [e.run_leaving, if_neg (Nat.not_lt.2 stays)]
    exact (course.retold false).delivered

/-- **All observers of a session are told the same, and none is noticed.** In every world, a mailbox,
a record and a console make the same of what the session tells. In every setting, where time passes
only while a call is waited for, the session makes the same calls at the same times, reports the
same and comes to the same summary, whoever listens, and also if a reader leaves at any moment. -/
theorem session_retold (engine : Engine) (request : RunRequest) :
    (∀ {σ : Type} (w : World σ) (s : σ) (styled : Bool),
      Retold styled request (w.transcript (engine.session request) s).told
        (w.events (engine.session request) s) (w.run (engine.session request) s).1) ∧
    (∀ {σ ω : Type} (e : Setting σ) (s : σ) (o : Observer ω) (a : ω),
      o.Unnoticed e (engine.session request) s a) ∧
    ∀ {σ : Type} (e : Setting σ) (s : σ) (n : Nat), Deserted engine request e s n :=
  ⟨fun w s styled => (yields_session (w.yields (engine.session request) s)).retold styled,
    fun e s o a => o.unnoticed e (engine.session request) s a,
    fun e s n => deserted engine request e s n⟩

end Playback
