import Playback.Run.Ledger

/-!
# Observers

An observer hears every message of a run, in order, and has no influence on it.

* `Memory` — **records what it hears**;
* `Mailbox` — **hands what it hears on** to a reader, for as long as there is one.
-/

namespace Playback

/-- **A record of what was heard.** -/
structure Memory where
  /-- The progress events, in order. -/
  events : List ProgressEvent := []
  /-- The sessions heard of, in order. -/
  sessions : List String := []
  /-- The latest summary. -/
  summary : Option RunSummary := none
  deriving Inhabited

namespace Memory

/-- Records a message. -/
def hear (m : Memory) : StreamMessage → Memory
  | .session id _ => { m with sessions := m.sessions ++ [id] }
  | .progress e => { m with events := m.events ++ [e] }
  | .summary s => { m with summary := some s }

/-- The record of some messages. -/
def ofMessages (messages : List StreamMessage) : Memory := messages.foldl hear {}

/-- The events of one step number, in order. -/
def eventsFor (m : Memory) (index : UInt32) : List ProgressEvent :=
  m.events.filter fun e => e.indexStep == index

end Memory

/-- **Messages on their way to a reader.** -/
structure Mailbox where
  /-- The messages not yet read, in order. -/
  waiting : List StreamMessage := []
  /-- Whether there is a reader; without one messages are dropped. -/
  hasReader : Bool := true
  deriving Inhabited

namespace Mailbox

/-- Hands a message on. -/
def hear (b : Mailbox) (m : StreamMessage) : Mailbox :=
  if b.hasReader then { b with waiting := b.waiting ++ [m] } else b

/-- The reader leaves. -/
def leave (_ : Mailbox) : Mailbox := { waiting := [], hasReader := false }

/-- The reader takes all messages that wait. -/
def take (b : Mailbox) : List StreamMessage × Mailbox := (b.waiting, { b with waiting := [] })

end Mailbox

end Playback
