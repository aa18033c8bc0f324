import Playback.Page.Locator
import Playback.Run.Attempt

/-!
# Finding the element of a step

A step carries candidates for one element, in order of preference. `resolve` waits for one after the
other and **settles on the first that becomes visible**. The first candidate is given the primary
timeout, every later one the fallback timeout. A candidate of unknown type is passed over, a fault
of the page counts as "not visible", and only cancellation breaks off.
-/

namespace Playback

/-- **A candidate that became visible.** -/
structure Located where
  /-- Its place in the list of candidates. -/
  position : Nat
  /-- The candidate. -/
  selector : Selector
  /-- Its query. -/
  query : String
  /-- The candidates waited for, this one included. -/
  attempts : Nat
  deriving DecidableEq, Repr

/-- **How the search for an element ends.** -/
inductive Resolution where
  | found (located : Located)
  | notFound (attempts : Nat)
  deriving DecidableEq, Repr

namespace Attempt

/-- The search among the remaining candidates, with the place of the next one and the number of
those waited for. -/
def resolveFrom (primary fallback : Nat) : List Selector → Nat → Nat → Attempt Resolution
  | [], _, attempts => return .notFound attempts
  | selector :: rest, position, attempts =>
    match selector.query? with
    | none => resolveFrom primary fallback rest (position + 1) attempts
    | some query => do
      -- the first candidate waited for, which need not be the first in the list
      match ← guard (.waitVisible query (if attempts = 0 then primary else fallback)) with
      | .ok true => return .found ⟨position, selector, query, attempts + 1⟩
      | _ => resolveFrom primary fallback rest (position + 1) (attempts + 1)

/-- **The first candidate that becomes visible.** -/
def resolve (primary fallback : Nat) (candidates : List Selector) : Attempt Resolution :=
  resolveFrom primary fallback candidates 0 0

/-- The search with a primary timeout in milliseconds and the configured fallback timeout. -/
def resolveWithin (config : EngineConfig) (primaryMs : Nat) (candidates : List Selector) :
    Attempt Resolution :=
  resolve (Span.ofMillis primaryMs) (Span.ofMillis config.timeouts.fallbackMs) candidates

end Attempt

end Playback
