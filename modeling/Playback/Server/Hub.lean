import Playback.Config.Basic
import Playback.Run.Observer
import Playback.Run.Session
import Playback.Script.Library
import Playback.Server.Registry
import Playback.Server.Trigger

/-!
# The server's hub

The hub brings requests, sessions and streams together. A request to run a test opens a session,
starts its run and is answered with the stream of what the run tells; the run ends on its own, by a
request to close its session, or when the reader of the stream leaves.

* `Hub` — **the sessions and the feeds** of a server;
* `Setup` — what does not change: scripts and configuration;
* `Launch` — **a run to start**, with the token of its session;
* `Setup.respond` — the answer to a request, and the run that it starts;
* `Hub.send`, `Hub.finish` — what a run does to its stream;
* `Hub.read`, `Hub.leave` — what a reader does.
-/

namespace Playback.Server

/-- **The way from a run to the reader of its messages.** -/
structure Feed where
  /-- Messages on their way. -/
  mailbox : Mailbox := {}
  /-- The run is over; no more messages will come. -/
  isOver : Bool := false
  deriving Inhabited

/-- **The sessions and the streams** of a server. -/
structure Hub where
  registry : SessionRegistry := {}
  /-- The streams by the names of their sessions. -/
  streams : List (String × Feed) := []
  deriving Inhabited

/-- **What does not change** while a server runs. -/
structure Setup where
  /-- The name of the directory of scripts. -/
  root : String
  /-- The files below it. -/
  library : Library
  config : EngineConfig

/-- **A run to start**: what it runs, and the token that it heeds. -/
structure Launch where
  request : RunRequest
  token : CancelToken

/-- **The answer to a request.** -/
inductive Response where
  /-- A status without a body. -/
  | bare (status : Nat)
  | json (status : Nat) (body : Json)
  /-- A stream of messages. -/
  | stream (sessionId : String)

namespace Response

/-- The answer that says what went wrong. -/
def error (status : Nat) (message : String) : Response :=
  .json status (.obj [("error", .str message)])

/-- The status of an answer. -/
def status : Response → Nat
  | bare s => s
  | json s _ => s
  | stream _ => 200

end Response

/-- **The status for a script that cannot be had.** -/
def scriptStatus : ScriptError → Nat
  | .scriptNotFound _ => 404
  | .unknownScenario _ _ => 400
  | .invalidScript _ _ => 400
  | .io _ => 500
  | .yaml _ => 500

namespace Hub

/-! ## Streams -/

/-- Changes the stream of a session. -/
def alterFeed (h : Hub) (id : String) (f : Feed → Feed) : Hub :=
  { h with streams := h.streams.map fun e => if e.1 == id then (e.1, f e.2) else e }

/-- The stream of a session. -/
def feed? (h : Hub) (id : String) : Option Feed :=
  (h.streams.find? fun e => e.1 == id).map (·.2)

/-- Closes a session. -/
def close (h : Hub) (id : String) : Bool × Hub :=
  let (wasOpen, registry) := h.registry.close id
  (wasOpen, { h with registry })

/-- A run tells something. -/
def send (h : Hub) (id : String) (m : StreamMessage) : Hub :=
  h.alterFeed id fun s => { s with mailbox := s.mailbox.hear m }

/-- A run is over: its stream will end, and its session is closed. -/
def finish (h : Hub) (id : String) : Hub :=
  ((h.alterFeed id fun s => { s with isOver := true }).close id).2

/-- The reader of a stream leaves, and the session is closed. -/
def leave (h : Hub) (id : String) : Hub :=
  ((h.alterFeed id fun s => { s with mailbox := s.mailbox.leave }).close id).2

/-- **What a reader gets** next. -/
inductive Delivery where
  | message (message : StreamMessage)
  | ended
  /-- Nothing yet. -/
  | nothing

/-- **A reader asks for the next message.** At the end of the stream it leaves. -/
def read (h : Hub) (id : String) : Delivery × Hub :=
  match h.feed? id with
  | none => (.ended, h)
  | some s =>
    match s.mailbox.waiting with
    | m :: rest =>
      (.message m, h.alterFeed id fun s => { s with mailbox := { s.mailbox with waiting := rest } })
    -- messages that wait are handed out even if the run is over
    | [] => if s.isOver then (.ended, h.leave id) else (.nothing, h)

end Hub

namespace Setup

/-! ## Requests -/

/-- **A request to run a test**, under a fresh session name: the answer, the hub after it, and the
run to start. -/
def runTestCase (setup : Setup) (hub : Hub) (fresh : String) (startedAt : Instant)
    (testCase : String) (trigger : RunTrigger) : Response × Hub × Option Launch :=
  let prepared := do
    let script ← setup.library.find setup.root testCase
    let data ← script.resolveData trigger.dataScenario trigger.testData
    return (script, data)
  match prepared with
  | .error e => (.error (scriptStatus e) e.message, hub, none)
  | .ok (script, data) =>
    let headless := trigger.isHeadless.getD setup.config.browser.headless
    let session : SessionEntry := ⟨fresh, some testCase, startedAt⟩
    (.stream session.id,
      { registry := hub.registry.openSession fresh (some testCase) startedAt
        streams := hub.streams ++ [(session.id, { mailbox := {} })] },
      some ⟨RunRequest.ofScript session.id script data headless, session.token⟩)

/-- A request to run a test, whose body is examined first. -/
def triggered (setup : Setup) (hub : Hub) (fresh : String) (startedAt : Instant)
    (testCase : String) (r : WebRequest) : Response × Hub × Option Launch :=
  -- the kind of the body is examined before the body, and the body before the script
  if !(r.contentType.map isJsonType).getD false then (.bare 415, hub, none)
  else
    match RunTrigger.ofBody r.body with
    | .error .malformed => (.bare 400, hub, none)
    | .error .mismatch => (.bare 422, hub, none)
    | .ok trigger => setup.runTestCase hub fresh startedAt testCase trigger

/-- A request to close a session. -/
def closeSession (hub : Hub) (id : String) : Response × Hub :=
  match hub.close id with
  | (true, hub) => (.bare 204, hub)
  | (false, hub) => (.error 404 ("Session not found: " ++ id), hub)

/-- What the server says of its health. -/
def healthBody : Json := .obj [("status", .str "ok"), ("service", .str "replaykit-web")]

/-- The tests that can be run. -/
def testCasesBody (setup : Setup) : Json :=
  let names := setup.library.names
  .obj [("testCases", .arr (names.map Json.str)), ("count", .int names.length)]

/-- The open sessions. -/
def sessionsBody (hub : Hub) (time : Instant → Json) : Json :=
  let entries := hub.registry.list
  .obj [("sessions", .arr (entries.map fun e => e.encode (time e.startedAt))),
    ("count", .int entries.length)]

/-- An answer to a request to read; only its status if only that is asked for. -/
def shown (r : WebRequest) (body : Json) : Response :=
  if r.method = "HEAD" then .bare 200 else .json 200 body

/-- The answer to a request on its route. -/
def onRoute (setup : Setup) (hub : Hub) (time : Instant → Json) (fresh : String)
    (startedAt : Instant) (r : WebRequest) : Route → Response × Hub × Option Launch
  | .health => (shown r healthBody, hub, none)
  | .testCases => (shown r setup.testCasesBody, hub, none)
  | .sessions => (shown r (sessionsBody hub time), hub, none)
  | .session id =>
    match percentDecoded? id with
    | none => (.bare 400, hub, none)
    | some id =>
      let (response, hub) := closeSession hub id
      (response, hub, none)
  | .runTestCase name =>
    match percentDecoded? name with
    | none => (.bare 400, hub, none)
    | some name => setup.triggered hub fresh startedAt name r

/-- **The answer to a request**, the hub after it, and the run that it starts under a fresh session
name. -/
def respond (setup : Setup) (hub : Hub) (time : Instant → Json) (fresh : String)
    (startedAt : Instant) (r : WebRequest) : Response × Hub × Option Launch :=
  if r.method = "OPTIONS" then (.bare 200, hub, none)
  else
    match Route.find (Route.path r.target) with
    | none => (.bare 404, hub, none)
    | some route =>
      if route.allows r.method then setup.onRoute hub time fresh startedAt r route
      else (.bare 405, hub, none)

end Setup

end Playback.Server
