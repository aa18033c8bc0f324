import Playback.Page.Basic

/-!
# Configuration

* `EngineConfig` — **everything a run can be tuned by**: timeouts, passcode look-ups, the browser,
  and what follows a step that aborts the test;
* `Overrides`, `EngineConfig.withOverrides` — variables of the environment laid over it.

Times are whole milliseconds below 2 ^ 64.
-/

namespace Playback

/-- **What follows a step that aborts the test.** -/
inductive AbortPolicy where
  /-- The remaining steps are run. -/
  | continue
  /-- The remaining steps are reported as skipped. -/
  | haltOnAbort
  deriving DecidableEq, Repr, Inhabited

namespace AbortPolicy

/-- The name of a policy in files and records. -/
def name : AbortPolicy → String
  | .continue => "continue"
  | .haltOnAbort => "halt_on_abort"

/-- The policy that a word names. Halting has three spellings. -/
def ofName? (s : String) : Option AbortPolicy :=
  if s = "continue" then some .continue
  else if s = "halt_on_abort" ∨ s = "halt-on-abort" ∨ s = "halt" then some .haltOnAbort
  else none

/-- What is said of a word that names no policy. -/
def unknown (s : String) : String := "unknown abort policy '" ++ s ++ "'"

end AbortPolicy

/-- **Timeouts** in milliseconds. -/
structure TimeoutConfig where
  navigationMs : Nat := 60000
  clickMs : Nat := 80000
  changeMs : Nat := 70000
  assertMs : Nat := 70000
  passcodeMs : Nat := 70000
  /-- For every candidate of a step after the first. -/
  fallbackMs : Nat := 15000
  /-- For each phase that a page is let settle in. -/
  loadStateMs : Nat := 5000
  /-- A pause after a click. -/
  clickSettleMs : Nat := 1000
  deriving DecidableEq, Repr, Inhabited

/-- **How passcodes are looked up.** -/
structure PasscodeConfig where
  /-- Where codes are asked for; without it passcode steps fail. -/
  endpoint : Option String := none
  /-- The name of the query that holds a code. -/
  queryField : String := "latestPasscode"
  /-- Look-ups in one acquisition. -/
  attempts : UInt32 := 6
  /-- A pause between two look-ups. -/
  backoffMs : Nat := 1000
  /-- How far a code may lie from the request. -/
  freshnessWindowMs : Nat := 15000
  /-- Acquisitions in one step. -/
  acquisitionRetries : UInt32 := 3
  /-- A bound on one request. -/
  requestTimeoutMs : Nat := 10000
  deriving DecidableEq, Repr, Inhabited

/-- **The browser.** -/
structure BrowserSettings where
  headless : Bool := true
  viewportWidth : UInt32 := 1366
  viewportHeight : UInt32 := 768
  /-- The browser's program; found by itself when unset. -/
  chromeExecutable : Option String := none
  noSandbox : Bool := false
  deriving DecidableEq, Repr, Inhabited

/-- The options of a page under these settings. -/
def BrowserSettings.options (b : BrowserSettings) (headless : Bool) : BrowserOptions :=
  { headless, viewportWidth := b.viewportWidth, viewportHeight := b.viewportHeight }

/-- **The configuration of the engine.** -/
structure EngineConfig where
  timeouts : TimeoutConfig := {}
  passcode : PasscodeConfig := {}
  browser : BrowserSettings := {}
  abortPolicy : AbortPolicy := .continue
  deriving DecidableEq, Repr, Inhabited

/-! ## Variables of the environment -/

/-- A letter A to Z in lower case, any other character as it is. -/
def lowerAscii (c : Char) : Char :=
  if 'A' ≤ c ∧ c ≤ 'Z' then Char.ofNat (c.toNat + 32) else c

/-- The truth value that a word names, in any case of its letters. -/
def boolOfText? (s : String) : Option Bool :=
  let t := String.ofList (s.toList.map lowerAscii)
  if t ∈ ["1", "true", "yes", "on"] then some true
  else if t ∈ ["0", "false", "no", "off"] then some false
  else none

/-- The number of milliseconds that a text denotes. -/
def millisOfText? (s : String) : Option Nat :=
  (natOfText? s.toList).filter fun n => decide (n < Nat.pow 2 64)

/-- **Variables of the environment**, by their names. -/
abbrev Environment := Dict String

namespace EngineConfig

/-- The names of the variables that are looked at. -/
def headlessVariable : String := "REPLAYKIT_HEADLESS"

/-- The variable for `noSandbox`. -/
def noSandboxVariable : String := "REPLAYKIT_NO_SANDBOX"

/-- The variable for the browser's program. -/
def chromePathVariable : String := "REPLAYKIT_CHROME_PATH"

/-- The variable for the passcode endpoint. -/
def endpointVariable : String := "REPLAYKIT_PASSCODE_ENDPOINT"

/-- The variable for the abort policy. -/
def abortPolicyVariable : String := "REPLAYKIT_ABORT_POLICY"

/-- The variable for the fallback timeout. -/
def fallbackVariable : String := "REPLAYKIT_FALLBACK_TIMEOUT_MS"

/-- **Lays the environment over a configuration.** A variable whose text means nothing is as if it
were unset. -/
def withOverrides (c : EngineConfig) (env : Environment) : EngineConfig where
  timeouts := { c.timeouts with
    fallbackMs := ((env.get? fallbackVariable).bind millisOfText?).getD c.timeouts.fallbackMs }
  passcode := { c.passcode with
    endpoint := (env.get? endpointVariable).orElse fun _ => c.passcode.endpoint }
  browser := { c.browser with
    headless := ((env.get? headlessVariable).bind boolOfText?).getD c.browser.headless
    noSandbox := ((env.get? noSandboxVariable).bind boolOfText?).getD c.browser.noSandbox
    chromeExecutable :=
      (env.get? chromePathVariable).orElse fun _ => c.browser.chromeExecutable }
  abortPolicy := ((env.get? abortPolicyVariable).bind AbortPolicy.ofName?).getD c.abortPolicy

end EngineConfig

end Playback
