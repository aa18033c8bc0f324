import Playback.Run.Call

/-!
# Simulated pages

A page, a passcode service and a clock that exist only as data, to try runs out without a browser.

* `Script` — **how the simulated world behaves**: what calls fail, what they change, how long they
  take;
* `Scene` — **its state**: the time, the elements of the page, the replies to come, and what has
  happened;
* `Scene.start` — starts a call, which is answered at once or waits for a time.

The clock counts whole milliseconds and moves only while something waits. A wait ends at the first
whole millisecond at which its span has passed; a wait of no span is over at once.
-/

namespace Playback.Simulation

/-- **An element of a page.** -/
structure Element where
  visible : Bool := true
  enabled : Bool := true
  clickable : Bool := true
  /-- The text or value of the element. -/
  text : String := ""
  /-- When it becomes visible, in milliseconds. -/
  appearsAt : Nat := 0
  deriving DecidableEq, Repr, Inhabited

/-- The state that an element shows. -/
def Element.state (e : Element) : ElementState := ⟨e.visible, e.enabled, e.clickable⟩

/-- **What a call does to the page.** -/
inductive Effect where
  | remove (query : String)
  | set (query : String) (element : Element)
  deriving Repr

/-- **How the wait for a phase of the document ends.** -/
inductive Phase where
  | reached
  | hangs
  | fails (fault : PageFault)
  deriving Repr, Inhabited

/-- **A reply of the passcode service.** -/
structure Reply where
  /-- What is replied. -/
  answer : Except LookupFault (Option IssuedCode) := .ok none
  /-- How long it takes, in milliseconds. -/
  delay : Nat := 0

/-- **How the simulated world behaves.** -/
structure Script where
  /-- Whether a wait for an element that does not appear takes its whole timeout. -/
  missSleeps : Bool := false
  /-- How long addresses take to load, in milliseconds. -/
  gotoLatency : Nat := 0
  /-- The faults of calls, by the name of the call and the query or address. -/
  fails : Dict (Dict PageFault) := Dict.empty
  /-- The effects of calls, by the name of the call, a blank, and the query or address. -/
  effects : Dict (List Effect) := Dict.empty
  /-- How the waits for phases end. -/
  phase : LoadState → Phase := fun _ => .reached
  screenshot : Except PageFault (List UInt8) := .ok []
  close : Except PageFault Unit := .ok ()
  /-- How long opening a page takes, in milliseconds. -/
  openDelay : Nat := 0
  /-- Why no page can be opened. -/
  openFault : Option OpenFault := none
  /-- Whether there is a passcode service at all. -/
  hasService : Bool := true
  /-- The time of day at the beginning. -/
  epoch : Instant

/-- **What happened**: a call was started, or the observer was told something. -/
inductive Happening where
  | call (call : Call)
  | message (message : StreamMessage)

/-- **The state of the simulated world.** -/
structure Scene where
  /-- Milliseconds since the beginning. -/
  now : Nat := 0
  /-- The elements of the page by their queries. -/
  elements : Dict Element := Dict.empty
  /-- The replies of the passcode service still to come; after them there are no codes. -/
  replies : List Reply := []
  /-- What happened and when, the latest first. -/
  past : List (Nat × Happening) := []

/-- **How a started call goes on**: it is answered, or waits for a time of the clock and is answered
then. -/
inductive Started (α : Type) where
  | answered (answer : α)
  | waits (wake : Nat) (wakeUp : Scene → α × Scene)

namespace Scene

/-- Notes what happens. -/
def note (s : Scene) (h : Happening) : Scene := { s with past := (s.now, h) :: s.past }

/-- What happened, in order. -/
def trace (s : Scene) : List (Nat × Happening) := s.past.reverse

/-- Applies an effect. -/
def apply (s : Scene) : Effect → Scene
  | .remove query =>
    { s with elements := Dict.ofList (s.elements.entries.filter fun e => e.1 ≠ query) }
  | .set query element => { s with elements := s.elements.insert query element }

/-- Applies the effects of a call on a query or address. -/
def applyAll (script : Script) (call target : String) (s : Scene) : Scene :=
  ((script.effects.get? (call ++ " " ++ target)).getD []).foldl apply s

/-- The fault of a call on a query or address. -/
def fault? (script : Script) (call target : String) : Option PageFault :=
  (script.fails.get? call).bind fun d => d.get? target

/-- The milliseconds after which a span in nanoseconds has passed. -/
def wholeMillis (span : Nat) : Nat := (span + (Span.perMilli - 1)) / Span.perMilli

/-- Waits a number of milliseconds before an answer; a wait of none is over at once. -/
def after {α : Type} (s : Scene) (ms : Nat) (wakeUp : Scene → α × Scene) : Started α × Scene :=
  if ms = 0 then
    let (a, s) := wakeUp s
    (.answered a, s)
  else (.waits (s.now + ms) wakeUp, s)

/-- A call that fails if it is set to, and otherwise has its effects. -/
def attempt (script : Script) (call target : String) (s : Scene) :
    Except PageFault Unit × Scene :=
  match fault? script call target with
  | some e => (.error e, s)
  | none => (.ok (), s.applyAll script call target)

/-- A call on an element, which must exist. -/
def onElement {α : Type} (script : Script) (call query : String) (s : Scene)
    (answer : Scene → α × Scene) : Except PageFault α × Scene :=
  match fault? script call query with
  | some e => (.error e, s)
  | none =>
    if s.elements.contains query then
      let (a, s) := answer (s.applyAll script call query)
      (.ok a, s)
    else (.error (.missing query), s)

/-- Replaces the text of an element, if it is still there. -/
def setText (query value : String) (s : Scene) : Scene :=
  match s.elements.get? query with
  | some e => { s with elements := s.elements.insert query { e with text := value } }
  | none => s

/-- An answer without a wait. -/
def atOnce {α : Type} (r : α × Scene) : Started α × Scene := (.answered r.1, r.2)

/-- Waits for an element: until it appears, if it does so in time. -/
def awaitVisible (script : Script) (query : String) (timeout : Nat) (s : Scene) :
    Started (Except PageFault Bool) × Scene :=
  match attempt script "waitVisible" query s with
  | (.error e, s) => (.answered (.error e), s)
  | (.ok _, s) =>
    let limit := wholeMillis timeout
    let missed := if script.missSleeps then limit else 0
    match s.elements.get? query with
    | some e =>
      -- an element that has appeared already is seen at once
      if e.visible && e.appearsAt - s.now ≤ limit then
        s.after (e.appearsAt - s.now) fun s => (.ok true, s)
      else s.after missed fun s => (.ok false, s)
    | none => s.after missed fun s => (.ok false, s)

/-- Loads an address, which fails if it takes longer than the timeout. -/
def load (script : Script) (url : String) (timeout : Nat) (s : Scene) :
    Started (Except PageFault Unit) × Scene :=
  if wholeMillis timeout < script.gotoLatency then
    s.after (wholeMillis timeout) fun s =>
      (.error (.timeout ("navigation to " ++ url) timeout), s)
  else s.after script.gotoLatency (attempt script "goto" url)

/-- Waits for a phase of the document. -/
def awaitPhase (script : Script) (state : LoadState) (timeout : Nat) (s : Scene) :
    Started (Except PageFault Unit) × Scene :=
  match script.phase state with
  | .reached => (.answered (.ok ()), s)
  | .hangs =>
    s.after (wholeMillis timeout) fun s => (.error (.timeout state.name timeout), s)
  | .fails e => (.answered (.error e), s)

/-- Asks the passcode service, which takes the next reply. -/
def ask (s : Scene) : Started (Except LookupFault (Option IssuedCode)) × Scene :=
  match s.replies with
  | [] => (.answered (.ok none), s)
  | r :: rest => { s with replies := rest }.after r.delay fun s => (r.answer, s)

/-- Whether a call is noted. -/
def isNoted (script : Script) : Call → Bool
  | .pause _ => false
  | .lookup _ _ => script.hasService
  | _ => true

/-- **Starts a call** that has been noted. -/
def start (script : Script) (s : Scene) : (c : Call) → Started c.Answer × Scene
  | .openPage _ => s.after script.openDelay fun s =>
    match script.openFault with
    | some e => (.error e, s)
    | none => (.ok (), s)
  | .goto url timeout => load script url timeout s
  | .loadState state timeout => awaitPhase script state timeout s
  | .waitVisible query timeout => awaitVisible script query timeout s
  | .click query => atOnce (onElement script "click" query s fun s => ((), s))
  | .fill query value =>
    atOnce (onElement script "fill" query s fun s => ((), s.setText query value))
  | .press query _ => atOnce (onElement script "press" query s fun s => ((), s))
  | .text query => atOnce (onElement script "text" query s fun s =>
    (((s.elements.get? query).map Element.text).getD "", s))
  | .state query => atOnce (onElement script "state" query s fun s =>
    (((s.elements.get? query).map Element.state).getD {}, s))
  | .screenshot => (.answered script.screenshot, s)
  | .close => (.answered script.close, s)
  | .lookup _ _ => if script.hasService then s.ask else (.answered (.error .unconfigured), s)
  | .backoff span => s.after (wholeMillis span) fun s => ((), s)
  | .pause span => s.after (wholeMillis span) fun s => ((), s)

/-- The time of day. -/
def timeOfDay (script : Script) (s : Scene) : Instant :=
  Instant.ofTotal (script.epoch.total + Span.ofMillis s.now)

end Scene

end Playback.Simulation
