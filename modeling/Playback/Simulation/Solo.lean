import Playback.Run.Routine
import Playback.Simulation.Scene

/-!
# A simulated world for one run

`solo` is **a world that answers the requests of one run**: its calls are those of the simulated
page, and the run is cancelled before it starts, at a time of the clock, or while a given call is
being started.

A call that waits lets the clock move to its end. If the run is cancelled on the way, a guarded call
is given up at that moment.
-/

namespace Playback.Simulation

/-- **When a run is cancelled.** -/
structure Cancellation where
  /-- The run is cancelled. -/
  fired : Bool := false
  /-- The time at which it will be. -/
  atTime : Option Nat := none
  /-- The number of calls from now at the last of which it will be; `0` for none. -/
  onCall : Nat := 0
  deriving DecidableEq, Repr

/-- **The state of one run's world.** -/
structure Solo where
  /-- The simulated world. -/
  scene : Scene := {}
  /-- The cancellation of the run. -/
  cancellation : Cancellation := {}

namespace Solo

/-- Notes a call, which may be the one that cancels the run. -/
def noteCall (script : Script) (s : Solo) (c : Call) : Solo :=
  if Scene.isNoted script c then
    { scene := s.scene.note (.call c)
      cancellation := { s.cancellation with
        fired := s.cancellation.fired || s.cancellation.onCall = 1
        onCall := s.cancellation.onCall - 1 } }
  else s

/-- The time before a wait's end at which the run is cancelled, if it is. -/
def cancelledBefore (s : Solo) (wake : Nat) : Option Nat :=
  if s.cancellation.fired then some s.scene.now
  else (s.cancellation.atTime.filter fun t => decide (t < wake)).map (max s.scene.now)

/-- Moves the clock to a time, at which the run may have been cancelled. -/
def advance (s : Solo) (time : Nat) (fired : Bool) : Solo where
  scene := { s.scene with now := time }
  cancellation := { s.cancellation with fired := s.cancellation.fired || fired }

/-- A call that is waited for in any case. -/
def patient (script : Script) (s : Solo) (c : Call) : c.Answer × Solo :=
  let s := s.noteCall script c
  match s.scene.start script c with
  | (.answered a, scene) => (a, { s with scene })
  | (.waits wake wakeUp, scene) =>
    -- nobody interrupts this call, but the run may be cancelled while it waits
    let fired := (s.cancelledBefore wake).isSome
    let s := { s with scene }.advance wake fired
    let (a, scene) := wakeUp s.scene
    (a, { s with scene })

/-- A call that is given up if the run is cancelled while it waits. -/
def impatient (script : Script) (s : Solo) (c : Call) : Option c.Answer × Solo :=
  let s := s.noteCall script c
  match s.scene.start script c with
  | (.answered a, scene) => (some a, { s with scene })
  | (.waits wake wakeUp, scene) =>
    match s.cancelledBefore wake with
    | some time => (none, { s with scene }.advance time true)
    | none =>
      let s := { s with scene }.advance wake false
      let (a, scene) := wakeUp s.scene
      (some a, { s with scene })

/-- The answer to a request. -/
def reply (script : Script) (s : Solo) : (q : Request) → q.Answer × Solo
  | .shielded c => s.patient script c
  | .guarded c =>
    if s.cancellation.fired then (.refused, s)
    else
      match s.impatient script c with
      | (some a, s) => (.answered a, s)
      | (none, s) => (.interrupted, s)
  | .inside c => s.impatient script c
  | .check => (s.cancellation.fired, s)
  | .clock => (Span.ofMillis s.scene.now, s)
  | .now => (s.scene.timeOfDay script, s)
  | .tell m => ((), { s with scene := s.scene.note (.message m) })

end Solo

/-- **The simulated world of one run.** -/
def solo (script : Script) : World Solo := ⟨Solo.reply script⟩

end Playback.Simulation
