import Playback.Run.Handler.Basic

/-!
# Clicks

Clicks the first visible candidate of a step and lets the page react.
-/

namespace Playback

/-- **Clicks an element.** The picture shows the page before the click. -/
def Handler.click : Handler := fun ctx step => do
  let started ← Attempt.start step
  Attempt.settle ctx.config
  match ← Attempt.resolveWithin ctx.config ctx.config.timeouts.clickMs step.selectors with
  | .notFound attempts =>
    Attempt.fail step step.label started
      (.failed ("Element to click not found" ++ triedText attempts))
  | .found found => do
    let picture ← Attempt.screenshot
    -- the click may lead away from the page, so the picture comes first
    let answer ← Attempt.guard (.click found.query)
    Attempt.orFault answer
    Attempt.guard (.pause (Span.ofMillis ctx.config.timeouts.clickSettleMs))
    Attempt.complete step ("Click on " ++ found.query) started picture (some found.details)

end Playback
