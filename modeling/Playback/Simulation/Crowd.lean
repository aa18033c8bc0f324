import Playback.Run.Routine
import Playback.Server.Hub
import Playback.Simulation.Scene

/-!
# Many runs in one simulated world

A server runs many sessions at once, over one simulated page and one clock. Each run goes on by
itself until it waits for a time of the clock; the clock moves to the next such time when nothing
else can happen.

* `Segment` — how far a run gets at one moment;
* `Pending` — **a run that waits**, with the token that it heeds;
* `Crowd` — **a server with its runs** and the simulated world;
* `Crowd.request`, `Crowd.read`, `Crowd.leave`, `Crowd.sleep` — what clients do.
-/

namespace Playback.Simulation

open Server

/-- **A wait** for a time: how a run goes on then, and how it goes on if it is cancelled before. -/
structure Waiting where
  wake : Nat
  goOn : Scene → Routine RunSummary × Scene
  giveUp : Option (Routine RunSummary)

/-- **How far a run gets** at one moment: the scene, what it tells, and whether it waits. -/
structure Segment where
  scene : Scene
  /-- What was told, the latest first. -/
  told : List StreamMessage := []
  /-- The run waits; otherwise it is over. -/
  waiting : Option Waiting

namespace Segment

/-- A started call, and how the run goes on with its answer. -/
def afterStart {α : Type} (started : Started α × Scene) (goOn : α → Routine RunSummary)
    (giveUp : Option (Routine RunSummary))
    (next : (a : α) → Scene → Segment) (told : List StreamMessage) : Segment :=
  match started with
  | (.answered a, scene) => next a scene
  | (.waits wake wakeUp, scene) =>
    { scene, told, waiting := some {
        wake
        goOn := fun s =>
          let (a, s) := wakeUp s
          (goOn a, s)
        giveUp } }

/-- Notes a call and starts it. -/
def begin (script : Script) (s : Scene) (c : Call) : Started c.Answer × Scene :=
  (if Scene.isNoted script c then s.note (.call c) else s).start script c

/-- **Lets a run go on** until it waits or is over. -/
def go (script : Script) (cancelled : Bool) :
    Routine RunSummary → Scene → List StreamMessage → Segment
  | .done _, scene, told => { scene, told, waiting := none }
  | .ask (.shielded c) k, scene, told =>
    afterStart (begin script scene c) k none (fun a s => go script cancelled (k a) s told) told
  | .ask (.guarded c) k, scene, told =>
    if cancelled then go script cancelled (k .refused) scene told
    else
      afterStart (begin script scene c) (fun a => k (.answered a)) (some (k .interrupted))
        (fun a s => go script cancelled (k (.answered a)) s told) told
  | .ask (.inside c) k, scene, told =>
    afterStart (begin script scene c) (fun a => k (some a)) (some (k none))
      (fun a s => go script cancelled (k (some a)) s told) told
  | .ask .check k, scene, told => go script cancelled (k cancelled) scene told
  | .ask .clock k, scene, told => go script cancelled (k (Span.ofMillis scene.now)) scene told
  | .ask .now k, scene, told => go script cancelled (k (scene.timeOfDay script)) scene told
  | .ask (.tell m) k, scene, told => go script cancelled (k ()) scene (m :: told)

end Segment

/-- **A run that waits.** -/
structure Pending where
  /-- The name of its session. -/
  session : String
  token : CancelToken
  wait : Waiting

/-- How a run goes on that is woken: it gives up what it waits for if its token is cancelled. -/
def Pending.resume (p : Pending) (cancelled : Bool) (s : Scene) : Routine RunSummary × Scene :=
  match p.wait.giveUp with
  | some r => if cancelled then (r, s) else p.wait.goOn s
  | none => p.wait.goOn s

/-- **A server with its runs**, in a simulated world. -/
structure Crowd where
  hub : Hub := {}
  scene : Scene := {}
  /-- The runs that wait. -/
  waiting : List Pending := []
  /-- How many sessions have been opened. -/
  opened : Nat := 0

/-- **What does not change**: the world, and the server's setup and engine. -/
structure Stage where
  script : Script
  setup : Setup
  engine : Engine

namespace Crowd

/-- Lets the run of a session go on, which looks at its token. -/
def proceed (stage : Stage) (c : Crowd) (id : String) (token : CancelToken)
    (r : Routine RunSummary) : Crowd :=
  let segment := Segment.go stage.script (c.hub.registry.hasCancelled token) r c.scene []
  let hub := segment.told.reverse.foldl (fun h m => h.send id m) c.hub
  match segment.waiting with
  | some wait =>
    { c with hub, scene := segment.scene, waiting := c.waiting ++ [⟨id, token, wait⟩] }
  | none => { c with hub := hub.finish id, scene := segment.scene }

/-- Takes the run of a session from those that wait. -/
def withdraw (c : Crowd) (id : String) : Crowd :=
  { c with waiting := c.waiting.filter fun p => p.session != id }

/-- A waiting run whose token is cancelled, with the way it goes on. -/
def interrupted? (c : Crowd) : Option (Pending × Routine RunSummary) :=
  c.waiting.findSome? fun p =>
    if c.hub.registry.hasCancelled p.token then p.wait.giveUp.map fun r => (p, r) else none

/-- **Lets cancelled runs go on** until none of them waits, within so many steps. -/
def stir (stage : Stage) : Nat → Crowd → Crowd
  | 0, c => c
  | steps + 1, c =>
    match c.interrupted? with
    | some (p, r) => stir stage steps ((c.withdraw p.session).proceed stage p.session p.token r)
    | none => c

/-- Lets all runs go on that can. -/
def settle (stage : Stage) (c : Crowd) : Crowd := c.stir stage (2 * c.waiting.length)

/-- The run that waits for the earliest time. -/
def earliest : List Pending → Option Pending
  | [] => none
  | p :: rest =>
    match earliest rest with
    | some q => if p.wait.wake ≤ q.wait.wake then some p else some q
    | none => some p

/-- **Moves the clock to the next time** that a run waits for, if that is not after `limit`, and
lets the run go on. -/
def tick (stage : Stage) (c : Crowd) (limit : Option Nat) : Option Crowd :=
  match earliest c.waiting with
  | none => none
  | some p =>
    if (limit.map fun l => decide (l < p.wait.wake)).getD false then none
    else
      let c := c.withdraw p.session
      -- the time may be past already; the clock never goes back
      let scene := { c.scene with now := max c.scene.now p.wait.wake }
      let (r, scene) := p.resume (c.hub.registry.hasCancelled p.token) scene
      some (({ c with scene }.proceed stage p.session p.token r).settle stage)

/-- Moves the clock to a time, with everything that happens on the way, within so many steps. -/
def advance (stage : Stage) (limit : Nat) : Nat → Crowd → Crowd
  | 0, c => c
  | steps + 1, c =>
    match c.tick stage (some limit) with
    | some c => advance stage limit steps c
    | none => { c with scene := { c.scene with now := max c.scene.now limit } }

/-! ## Clients -/

/-- The name of a session by its number. -/
def sessionName (n : Nat) : String := "<s" ++ toString n ++ ">"

/-- The name of the session that is opened next. -/
def nextId (c : Crowd) : String := sessionName c.opened

/-- **A client sends a request.** -/
def request (stage : Stage) (time : Instant → Json) (c : Crowd) (r : WebRequest) :
    Response × Crowd :=
  let startedAt := Instant.ofTotal c.opened
  let (response, hub, run) := stage.setup.respond c.hub time c.nextId startedAt r
  let c := { c with hub }
  match run with
  | none => (response, c.settle stage)
  | some run =>
    (response, ({ c with opened := c.opened + 1 }.proceed stage run.request.sessionId run.token
      (stage.engine.session run.request)).settle stage)

/-- A client reads up to `count` messages of a session's stream, or all, and tells whether it met
the end. It waits for messages as long as some run waits. -/
def read (stage : Stage) (id : String) :
    Nat → Option Nat → Crowd → List StreamMessage → List StreamMessage × Bool × Crowd
  | 0, _, c, got => (got.reverse, false, c)
  | steps + 1, count, c, got =>
    if count = some 0 then (got.reverse, false, c)
    else
      match c.hub.read id with
      | (.message m, hub) =>
        read stage id steps (count.map (· - 1)) { c with hub } (m :: got)
      | (.ended, hub) => (got.reverse, true, { c with hub }.settle stage)
      | (.nothing, hub) =>
        match ({ c with hub } : Crowd).tick stage none with
        | some c => read stage id steps count c got
        | none => (got.reverse, false, { c with hub })

/-- A client leaves a stream. -/
def leave (stage : Stage) (id : String) (c : Crowd) : Crowd :=
  ({ c with hub := c.hub.leave id }).settle stage

/-- Time passes. -/
def sleep (stage : Stage) (ms steps : Nat) (c : Crowd) : Crowd :=
  c.advance stage (c.scene.now + ms) steps

end Crowd

end Playback.Simulation
