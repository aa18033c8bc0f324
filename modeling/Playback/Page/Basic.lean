import Playback.Span
import Playback.Wire.Step

/-!
# Pages

What a run knows of a browser page. Queries are CSS selectors, or XPath expressions behind the
marker `xpath=`.

* `LoadState` — the phases of a document that can be waited for;
* `ElementState` — how an element can be interacted with;
* `PageFault`, `OpenFault` — **why a call on a page, or the opening of one, fails**;
* `BrowserOptions` — what a page is opened with.
-/

namespace Playback

/-- **The phases of a document.** -/
inductive LoadState where
  | domContentLoaded
  | networkIdle
  | load
  deriving DecidableEq, Repr

namespace LoadState

/-- The order in which a page is let settle. -/
def settleOrder : List LoadState := [domContentLoaded, networkIdle, load]

/-- The name of a phase. -/
def name : LoadState → String
  | domContentLoaded => "domcontentloaded"
  | networkIdle => "networkidle"
  | load => "load"

end LoadState

/-- **How an element can be interacted with.** -/
structure ElementState where
  /-- It is shown. -/
  visible : Bool := false
  /-- It takes input. -/
  enabled : Bool := false
  /-- It is shown, takes input and is not covered. -/
  clickable : Bool := false
  deriving DecidableEq, Repr, Inhabited

namespace ElementState

/-- **An element's state as an object.** -/
def encode (s : ElementState) : Json := .obj [
  ("clickable", .bool s.clickable),
  ("enabled", .bool s.enabled),
  ("visible", .bool s.visible)]

/-- The fields of an element's state. -/
def fields : List Wire.Field := [
  Wire.field "visible" Wire.boolean,
  Wire.field "enabled" Wire.boolean,
  Wire.field "clickable" Wire.boolean]

/-- **Reads an element's state.** -/
def decode (origin : Origin) (d : Document) : Wire.Result ElementState := do
  let s ← Wire.slots origin fields d
  return {
    visible := ← s.required 0 Wire.boolean
    enabled := ← s.required 1 Wire.boolean
    clickable := ← s.required 2 Wire.boolean }

end ElementState

/-- **Why a call on a page fails.** -/
inductive PageFault where
  | driver (message : String)
  | timeout (what : String) (after : Nat)
  | missing (query : String)
  | script (message : String)
  | closed
  deriving DecidableEq, Repr

/-- The text of a page fault. -/
def PageFault.message : PageFault → String
  | driver m => "Browser driver error: " ++ m
  | timeout what ns => "Timed out after " ++ Span.debug ns ++ " waiting for " ++ what
  | missing query => "Element not found: " ++ query
  | script m => "Script evaluation failed: " ++ m
  | closed => "Page is closed"

/-- **Why no page can be opened.** -/
inductive OpenFault where
  | launch (message : String)
  | config (message : String)
  | page (fault : PageFault)
  deriving DecidableEq, Repr

/-- The text of a fault in opening a page. -/
def OpenFault.message : OpenFault → String
  | launch m => "Browser launch failed: " ++ m
  | config m => "Configuration error: " ++ m
  | page fault => "Page error: " ++ fault.message

/-- **What a page is opened with.** -/
structure BrowserOptions where
  /-- No window is shown. -/
  headless : Bool := true
  /-- Width of the page in pixels. -/
  viewportWidth : UInt32 := 1366
  /-- Height of the page in pixels. -/
  viewportHeight : UInt32 := 768
  deriving DecidableEq, Repr

end Playback
