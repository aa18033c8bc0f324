import Playback.Run.Handler.Basic
import Playback.Text.Blank

/-!
# Navigation

Loads the address of a step, or the text to type if the step has no address.
-/

namespace Playback

/-- The address that a step leads to. A blank one is none. -/
def StepRecord.address? (s : StepRecord) : Option String :=
  (s.url.orElse fun _ => s.input?).filter fun u => !Text.isBlankText u

/-- **Loads an address** in the page. -/
def Handler.navigate : Handler := fun ctx step => do
  let started ← Attempt.start step
  match step.address? with
  | none => throw (.invalidStep step.indexStep "navigate step has no url")
  | some url => do
    let answer ← Attempt.guard (.goto url (Span.ofMillis ctx.config.timeouts.navigationMs))
    Attempt.orFault answer
    Attempt.complete step ("Navigate to " ++ url) started none none

end Playback
