import Playback.Run.Handler.Assert
import Playback.Run.Handler.Change
import Playback.Run.Handler.Click
import Playback.Run.Handler.Navigate
import Playback.Run.Handler.Passcode
import Playback.Run.Handler.Wait

/-!
# Registries of handlers

* `Action.handler` — the handler of each action;
* `Registry` — **the actions that a run has handlers for**;
* `Registry.standard` — all of them.
-/

namespace Playback

/-- **The handler of an action.** -/
def Action.handler : Action → Handler
  | navigate => Handler.navigate
  | click => Handler.click
  | change => Handler.change false
  | changeWithEnter => Handler.change true
  | wait => Handler.wait
  | assert => Handler.assertion
  | otp => Handler.passcode

/-- **The actions that have handlers**, each once. -/
structure Registry where
  /-- The actions, in no order that matters. -/
  actions : List Action
  /-- No action occurs twice. -/
  nodup : actions.Nodup

namespace Registry

/-- No action has a handler. -/
def empty : Registry := ⟨[], List.nodup_nil⟩

/-- Whether an action has a handler. -/
def has (r : Registry) (a : Action) : Bool := r.actions.contains a

/-- Gives an action its handler. -/
def register (r : Registry) (a : Action) : Registry :=
  if h : a ∈ r.actions then r else ⟨a :: r.actions, List.nodup_cons.2 ⟨h, r.nodup⟩⟩

/-- The registry of some actions. -/
def ofActions (actions : List Action) : Registry := actions.foldl register empty

/-- **The registry of all actions.** -/
def standard : Registry := ofActions Action.all

/-- How many actions have handlers. -/
def size (r : Registry) : Nat := r.actions.length

/-- The handler for a step, `none` if its action is unknown or has none. -/
def handler? (r : Registry) (step : StepRecord) : Option Handler :=
  (step.action?.filter r.has).map Action.handler

end Registry

end Playback
