import Playback.Event
import Playback.Page.Basic
import Playback.Passcode.Basic

/-!
# Calls and requests

A run acts on the world by **calls**: on the browser page, on the passcode service and on the
clock. What it asks of the world is a **request**; most requests are calls, and say how a call and
the cancellation of the run go together:

* `shielded` — the call is made whatever happens;
* `guarded` — the call is not made once the run is cancelled, and is given up if the run is
  cancelled while it waits;
* `inside` — a call in the course of a longer guarded activity: it is made in any case, and given
  up like a guarded one.

The other requests look at the cancellation, read a clock, or tell the observer something.
-/

namespace Playback

/-- **A call on the world.** Spans of time are in nanoseconds. -/
inductive Call where
  /-- Opens a page. -/
  | openPage (options : BrowserOptions)
  /-- Loads an address. -/
  | goto (url : String) (timeout : Nat)
  /-- Waits for a phase of the document. -/
  | loadState (state : LoadState) (timeout : Nat)
  /-- Waits until the query matches a visible element, and tells whether it did. -/
  | waitVisible (query : String) (timeout : Nat)
  | click (query : String)
  /-- Replaces the value of an element. -/
  | fill (query value : String)
  /-- Presses a named key in an element. -/
  | press (query key : String)
  /-- The text of an element. -/
  | text (query : String)
  /-- The state of an element. -/
  | state (query : String)
  /-- A picture of the page. -/
  | screenshot
  /-- Gives the page back. -/
  | close
  /-- Asks the passcode service for the latest code. -/
  | lookup (channel : Channel) (username : String)
  /-- A pause between look-ups. -/
  | backoff (span : Nat)
  /-- A pause within a step. -/
  | pause (span : Nat)
  deriving DecidableEq, Repr

namespace Call

/-- What a call on the world is answered with. -/
@[reducible] def Answer : Call → Type
  | openPage _ => Except OpenFault Unit
  | goto _ _ => Except PageFault Unit
  | loadState _ _ => Except PageFault Unit
  | waitVisible _ _ => Except PageFault Bool
  | click _ => Except PageFault Unit
  | fill _ _ => Except PageFault Unit
  | press _ _ => Except PageFault Unit
  | text _ => Except PageFault String
  | state _ => Except PageFault ElementState
  | screenshot => Except PageFault (List UInt8)
  | close => Except PageFault Unit
  | lookup _ _ => Except LookupFault (Option IssuedCode)
  | backoff _ => Unit
  | pause _ => Unit

end Call

/-- **How a guarded call ends.** -/
inductive Guarded (α : Type) where
  /-- The run was cancelled already; the call was not made. -/
  | refused
  /-- The run was cancelled while the call waited. -/
  | interrupted
  | answered (answer : α)

/-- **A request to the world.** -/
inductive Request where
  | shielded (call : Call)
  | guarded (call : Call)
  | inside (call : Call)
  /-- Whether the run is cancelled. -/
  | check
  /-- The clock of the run, in nanoseconds. -/
  | clock
  /-- The time of day. -/
  | now
  /-- Tells the observer something. -/
  | tell (message : StreamMessage)

namespace Request

/-- What a request is answered with. A call that is given up inside a longer activity has no
answer. -/
@[reducible] def Answer : Request → Type
  | shielded call => call.Answer
  | guarded call => Guarded call.Answer
  | inside call => Option call.Answer
  | check => Bool
  | clock => Nat
  | now => Instant
  | tell _ => Unit

/-- The call that a request is about. -/
def call? : Request → Option Call
  | shielded call => some call
  | guarded call => some call
  | inside call => some call
  | check => none
  | clock => none
  | now => none
  | tell _ => none

end Request

end Playback
