import Playback.Instant
import Playback.Json.Value

/-!
# Sessions of a server

A server keeps a registry of the sessions that are open. Every session has a token; to close a
session is to cancel its token and to forget the session.

* `SessionEntry`, `CancelToken` — **an open session**, and its token;
* `SessionRegistry` — the open sessions, and which tokens are cancelled;
* `SessionRegistry.openSession`, `SessionRegistry.close` — the life of a session;
* `SessionRegistry.list` — the open sessions by the time of their opening.

Names of sessions are taken to be fresh whenever a session is opened.
-/

namespace Playback

/-- **An open session.** -/
structure SessionEntry where
  /-- The name of the session. -/
  id : String
  /-- The test that was asked for. -/
  testCase : Option String
  /-- When it was opened. -/
  startedAt : Instant
  deriving DecidableEq, Repr, Inhabited

/-- **The token of a session**, which is handed to the run of the session. -/
structure CancelToken where
  /-- The session that it was made for. -/
  session : String
  deriving DecidableEq, Repr, Inhabited

/-- The token that was made when a session was opened. -/
def SessionEntry.token (s : SessionEntry) : CancelToken := ⟨s.id⟩

/-- A session as an object, with its time of opening as a given value. -/
def SessionEntry.encode (s : SessionEntry) (startedAt : Json) : Json := .obj [
  ("id", .str s.id),
  ("testCase", Json.ofOption Json.str s.testCase),
  ("startedAt", startedAt)]

/-- **The open sessions**, and the sessions whose tokens are cancelled. -/
structure SessionRegistry where
  /-- The open sessions, in the order of their opening. -/
  entries : List SessionEntry := []
  /-- The names of the sessions whose tokens are cancelled. -/
  cancelled : List String := []
  deriving DecidableEq, Repr, Inhabited

namespace SessionRegistry

/-- **Opens a session** under a fresh name. -/
def openSession (r : SessionRegistry) (id : String) (testCase : Option String)
    (startedAt : Instant) : SessionRegistry :=
  { r with entries := r.entries ++ [⟨id, testCase, startedAt⟩] }

/-- The open session of a name. -/
def get? (r : SessionRegistry) (id : String) : Option SessionEntry :=
  r.entries.find? fun e => e.id == id

/-- Whether the token of a session is cancelled. -/
def isCancelled (r : SessionRegistry) (id : String) : Bool := r.cancelled.contains id

/-- Whether a token is cancelled. -/
def hasCancelled (r : SessionRegistry) (t : CancelToken) : Bool := r.isCancelled t.session

/-- Cancels the token of a session. -/
def cancel (r : SessionRegistry) (id : String) : SessionRegistry :=
  if r.isCancelled id then r else { r with cancelled := id :: r.cancelled }

/-- **Closes a session**: cancels its token and forgets it. Tells whether it was open; if it was
not, nothing changes. -/
def close (r : SessionRegistry) (id : String) : Bool × SessionRegistry :=
  match r.get? id with
  | none => (false, r)
  -- the token outlives the entry, so that the run still sees it
  | some _ => (true, { r.cancel id with entries := r.entries.filter fun e => e.id != id })

/-- The number of open sessions. -/
def size (r : SessionRegistry) : Nat := r.entries.length

/-- Puts a session before the first one that was opened later. -/
def insertByTime (e : SessionEntry) : List SessionEntry → List SessionEntry
  | [] => [e]
  | f :: rest =>
    if e.startedAt.total ≤ f.startedAt.total then e :: f :: rest else f :: insertByTime e rest

/-- **The open sessions** by the time of their opening. -/
def list (r : SessionRegistry) : List SessionEntry := r.entries.foldr insertByTime []

end SessionRegistry

end Playback
