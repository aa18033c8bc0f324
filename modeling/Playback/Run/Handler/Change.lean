import Playback.Run.Handler.Basic

/-!
# Changes

Types the text of a step into the first visible candidate, and may press the Enter key after that.
-/

namespace Playback

/-- Types the text of a step, if it has one, and tells what was done. -/
def typeInto (query : String) (input : Option String) : Attempt String :=
  match input with
  | some value => do
    let answer ← Attempt.guard (.fill query value)
    Attempt.orFault answer
    return "Type \"" ++ value ++ "\" into " ++ query
  | none => return "Focus " ++ query

/-- Presses Enter if that is asked for, and adds it to what was done. -/
def submitted (query : String) (submit : Bool) (action : String) : Attempt String :=
  if submit then do
    let answer ← Attempt.guard (.press query "Enter")
    Attempt.orFault answer
    return action ++ " and press Enter"
  else return action

/-- **Changes the value of an element**, with or without pressing Enter. The picture shows the page
before the change. -/
def Handler.change (submit : Bool) : Handler := fun ctx step => do
  let started ← Attempt.start step
  Attempt.settle ctx.config
  match ← Attempt.resolveWithin ctx.config ctx.config.timeouts.changeMs step.selectors with
  | .notFound attempts =>
    Attempt.fail step step.label started
      (.failed ("Input element not found" ++ triedText attempts))
  | .found found => do
    let picture ← Attempt.screenshot
    let typed ← typeInto found.query step.input?
    let action ← submitted found.query submit typed
    Attempt.complete step action started picture (some found.details)

end Playback
