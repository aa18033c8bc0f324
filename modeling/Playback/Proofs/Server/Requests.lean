import Playback.Proofs.Server.Registry
import Playback.Server.Hub

/-!
# What requests do to sessions

Of all requests, some open a session, some close one, and the others leave the sessions alone. Which
of these a request does depends on the request and on what the server has been set up with, and not
on the sessions that there are.

* `Hub.accept` — the hub once a run has been accepted;
* `WebRequest.closing?`, `Setup.opened?` — the session that a request asks to close, and the one it
  opens;
* `Setup.means` — **every request means one of three things** for the sessions;
* `Setup.respond_cases` — so a request starts a run in a fresh session, or closes one at most;
* `closeSession_eq` — whether a session was open shows in the answer to a request to close it.
-/

namespace Playback.Server

/-- **A run is accepted**: its session is opened, with a stream of its own. -/
def Hub.accept (h : Hub) (e : SessionEntry) : Hub where
  registry := h.registry.openSession e.id e.testCase e.startedAt
  streams := h.streams ++ [(e.id, {})]

/-- **The session that a request asks to close.** -/
def WebRequest.closing? (r : WebRequest) : Option String :=
  match Route.find (Route.path r.target) with
  | some (.session id) => if r.method = "DELETE" then percentDecoded? id else none
  | _ => none

namespace Setup

variable (setup : Setup) (fresh : String) (startedAt : Instant)

/-- **The session that a request opens**: the one that is there afterwards if there was none
before. -/
def opened? (r : WebRequest) : Option SessionEntry :=
  (setup.respond {} (fun _ => .null) fresh startedAt r).2.1.registry.entries.head?

/-- **What a request means** for the sessions, whatever sessions there are. -/
inductive Means (r : WebRequest) : Prop where
  /-- It starts a run in a fresh session. -/
  | runs (e : SessionEntry) (run : Launch) (id_eq : e.id = fresh)
      (startedAt_eq : e.startedAt = startedAt) (sessionId_eq : run.request.sessionId = fresh)
      (token_eq : run.token = e.token) (other : r.closing? = none)
      (respond_eq : ∀ hub time, setup.respond hub time fresh startedAt r =
        (.stream fresh, hub.accept e, some run))
  /-- It asks to close a session. -/
  | closes (id : String) (closing : r.closing? = some id)
      (respond_eq : ∀ hub time, setup.respond hub time fresh startedAt r =
        ((closeSession hub id).1, (closeSession hub id).2, none))
  /-- It leaves them alone. -/
  | leaves (other : r.closing? = none)
      (respond_eq : ∀ hub time, ∃ response, (∀ id, response ≠ .stream id) ∧
        setup.respond hub time fresh startedAt r = (response, hub, none))

variable {setup fresh startedAt}

/-- A request to run a test either starts it in a fresh session, or is refused. -/
theorem runTestCase_cases (setup : Setup) (fresh : String) (startedAt : Instant)
    (testCase : String) (trigger : RunTrigger) :
    (∃ run : Launch, run.request.sessionId = fresh ∧ run.token = ⟨fresh⟩ ∧ ∀ hub,
      setup.runTestCase hub fresh startedAt testCase trigger =
        (.stream fresh, hub.accept ⟨fresh, some testCase, startedAt⟩, some run)) ∨
    ∃ response : Response, (∀ id, response ≠ .stream id) ∧ ∀ hub,
      setup.runTestCase hub fresh startedAt testCase trigger = (response, hub, none) := by
  simp only [runTestCase]
  split
  · exact .inr ⟨_, fun _ => Response.noConfusion, fun _ => rfl⟩
  · exact .inl ⟨_, rfl, rfl, fun _ => rfl⟩

/-- The body of the request is examined first, and that may be the end of it. -/
theorem triggered_cases (setup : Setup) (fresh : String) (startedAt : Instant)
    (testCase : String) (r : WebRequest) :
    (∃ run : Launch, run.request.sessionId = fresh ∧ run.token = ⟨fresh⟩ ∧ ∀ hub,
      setup.triggered hub fresh startedAt testCase r =
        (.stream fresh, hub.accept ⟨fresh, some testCase, startedAt⟩, some run)) ∨
    ∃ response : Response, (∀ id, response ≠ .stream id) ∧ ∀ hub,
      setup.triggered hub fresh startedAt testCase r = (response, hub, none) := by
  simp only [triggered]
  split
  · exact .inr ⟨_, fun _ => Response.noConfusion, fun _ => rfl⟩
  · split
    · exact .inr ⟨_, fun _ => Response.noConfusion, fun _ => rfl⟩
    · exact .inr ⟨_, fun _ => Response.noConfusion, fun _ => rfl⟩
    · exact runTestCase_cases setup fresh startedAt testCase _

/-- A request to read leaves the sessions alone. -/
theorem shown_ne_stream (r : WebRequest) (body : Json) (id : String) : shown r body ≠ .stream id := by
  unfold shown
  split <;> exact Response.noConfusion

/-- **Every request means one of three things** for the sessions. -/
theorem means (setup : Setup) (fresh : String) (startedAt : Instant) (r : WebRequest) :
    setup.Means fresh startedAt r := by
  by_cases options : r.method = "OPTIONS"
  · refine .leaves ?_ fun hub time => ⟨.bare 200, fun _ => Response.noConfusion, if_pos options⟩
    rw [WebRequest.closing?]
    split
    · exact if_neg (by rw [options]; decide)
    · rfl
  cases found : Route.find (Route.path r.target) with
  | none =>
    exact .leaves (by simp [WebRequest.closing?, found]) fun hub time =>
      ⟨.bare 404, fun _ => Response.noConfusion, by simp [respond, options, found]⟩
  | some route =>
    by_cases allowed : route.allows r.method
    swap
    · refine .leaves ?_ fun hub time =>
        ⟨.bare 405, fun _ => Response.noConfusion, by simp [respond, options, found, allowed]⟩
      cases route <;> simp_all [WebRequest.closing?, Route.allows]
    have reached : ∀ hub time, setup.respond hub time fresh startedAt r =
        setup.onRoute hub time fresh startedAt r route := by
      intro hub time
      simp [respond, options, found, allowed]
    cases route with
    | health | testCases | sessions =>
      exact .leaves (by simp [WebRequest.closing?, found]) fun hub time =>
        ⟨_, shown_ne_stream r _, reached hub time⟩
    | session id =>
      have delete : r.method = "DELETE" := by simpa [Route.allows] using allowed
      cases decoded : percentDecoded? id with
      | none =>
        exact .leaves (by simp [WebRequest.closing?, found, decoded]) fun hub time =>
          ⟨.bare 400, fun _ => Response.noConfusion, by simp [reached, onRoute, decoded]⟩
      | some id =>
        exact .closes id (by simp [WebRequest.closing?, found, delete, decoded]) fun hub time => by
          simp [reached, onRoute, decoded]
    | runTestCase name =>
      have other : r.closing? = none := by simp [WebRequest.closing?, found]
      cases decoded : percentDecoded? name with
      | none =>
        exact .leaves other fun hub time =>
          ⟨.bare 400, fun _ => Response.noConfusion, by simp [reached, onRoute, decoded]⟩
      | some name =>
        obtain ⟨run, session, token, accepted⟩ | ⟨response, answer, refused⟩ :=
          triggered_cases setup fresh startedAt name r
        · exact .runs ⟨fresh, some name, startedAt⟩ run rfl rfl session token other
            fun hub time => by simp only [reached, onRoute, decoded, accepted]
        · exact .leaves other fun hub time =>
            ⟨response, answer, by simp only [reached, onRoute, decoded, refused]⟩

/-- **A request to close a session** is answered with 204 if the session was open, and with 404
otherwise. -/
theorem closeSession_eq (hub : Hub) (id : String) : closeSession hub id =
    (if (hub.close id).1 then .bare 204 else .error 404 ("Session not found: " ++ id),
      (hub.close id).2) := by
  rw [closeSession]
  generalize hub.close id = closed
  obtain ⟨_ | _, after⟩ := closed <;> rfl

/-- A request that asks to close a session does just that. -/
theorem respond_of_closing {r : WebRequest} {id : String} (closing : r.closing? = some id)
    (hub : Hub) (time : Instant → Json) : setup.respond hub time fresh startedAt r =
      ((closeSession hub id).1, (closeSession hub id).2, none) := by
  cases setup.means fresh startedAt r with
  | runs e run id_eq startedAt_eq sessionId_eq token_eq other => exact nomatch other.symm.trans closing
  | leaves other => exact nomatch other.symm.trans closing
  | closes x closes respond_eq =>
    obtain rfl : x = id := Option.some.inj (closes.symm.trans closing)
    exact respond_eq hub time

/-- **A request is answered** with the stream of a fresh session, whose run is to start with the token
of the session; or no run starts, and at most a session is closed. -/
theorem respond_cases {hub hub' : Hub} {time : Instant → Json} {r : WebRequest}
    {response : Response} {run : Option Launch}
    (answer : setup.respond hub time fresh startedAt r = (response, hub', run)) :
    (∃ e launch, e.id = fresh ∧ launch.request.sessionId = fresh ∧ launch.token = e.token ∧
      response = .stream fresh ∧ hub' = hub.accept e ∧ run = some launch) ∨
    (∀ id, response ≠ .stream id) ∧ run = none ∧ (hub' = hub ∨ ∃ id, hub' = (hub.close id).2) := by
  cases setup.means fresh startedAt r with
  | runs e launch id_eq startedAt_eq sessionId_eq token_eq other respond_eq =>
    rw [respond_eq] at answer
    obtain ⟨rfl, rfl, rfl⟩ := by simpa only [Prod.mk.injEq] using answer
    exact .inl ⟨e, launch, id_eq, sessionId_eq, token_eq, rfl, rfl, rfl⟩
  | closes id closing respond_eq =>
    rw [respond_eq, closeSession_eq] at answer
    obtain ⟨rfl, rfl, rfl⟩ := by simpa only [Prod.mk.injEq] using answer
    refine .inr ⟨fun id => ?_, rfl, .inr ⟨id, rfl⟩⟩
    split <;> exact Response.noConfusion
  | leaves other respond_eq =>
    obtain ⟨_, plain, respond_eq⟩ := respond_eq hub time
    rw [respond_eq] at answer
    obtain ⟨rfl, rfl, rfl⟩ := by simpa only [Prod.mk.injEq] using answer
    exact .inr ⟨plain, rfl, .inl rfl⟩

end Setup

end Playback.Server
