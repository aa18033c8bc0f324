import Playback.Config.Basic

/-!
# The configuration on the wire

The engine's configuration as an object, and read from one. Whatever is missing takes its default.
-/

namespace Playback

namespace AbortPolicy

/-- The policies by their names. -/
def members : List (String × AbortPolicy) :=
  [AbortPolicy.continue, haltOnAbort].map fun p => (p.name, p)

/-- A policy as text. -/
def encode (p : AbortPolicy) : Json := .str p.name

/-- Reads a policy. -/
def decode (origin : Origin) : Document → Wire.Result AbortPolicy := Wire.choice members origin

end AbortPolicy

namespace TimeoutConfig

/-- **Timeouts as an object.** -/
def encode (t : TimeoutConfig) : Json := .obj [
  ("assert_ms", .int t.assertMs),
  ("change_ms", .int t.changeMs),
  ("click_ms", .int t.clickMs),
  ("click_settle_ms", .int t.clickSettleMs),
  ("fallback_ms", .int t.fallbackMs),
  ("load_state_ms", .int t.loadStateMs),
  ("navigation_ms", .int t.navigationMs),
  ("passcode_ms", .int t.passcodeMs)]

/-- The fields of timeouts. -/
def fields : List Wire.Field := [
  Wire.field "navigation_ms" Wire.word64,
  Wire.field "click_ms" Wire.word64,
  Wire.field "change_ms" Wire.word64,
  Wire.field "assert_ms" Wire.word64,
  Wire.field "passcode_ms" Wire.word64,
  Wire.field "fallback_ms" Wire.word64,
  Wire.field "load_state_ms" Wire.word64,
  Wire.field "click_settle_ms" Wire.word64]

/-- **Reads timeouts.** -/
def decode (origin : Origin) (d : Document) : Wire.Result TimeoutConfig := do
  let s ← Wire.slots origin fields d
  let t : TimeoutConfig := {}
  return {
    navigationMs := ← s.defaulted 0 Wire.word64 t.navigationMs
    clickMs := ← s.defaulted 1 Wire.word64 t.clickMs
    changeMs := ← s.defaulted 2 Wire.word64 t.changeMs
    assertMs := ← s.defaulted 3 Wire.word64 t.assertMs
    passcodeMs := ← s.defaulted 4 Wire.word64 t.passcodeMs
    fallbackMs := ← s.defaulted 5 Wire.word64 t.fallbackMs
    loadStateMs := ← s.defaulted 6 Wire.word64 t.loadStateMs
    clickSettleMs := ← s.defaulted 7 Wire.word64 t.clickSettleMs }

end TimeoutConfig

namespace PasscodeConfig

/-- **The passcode settings as an object.** -/
def encode (p : PasscodeConfig) : Json := .obj [
  ("acquisition_retries", .int p.acquisitionRetries.toNat),
  ("attempts", .int p.attempts.toNat),
  ("backoff_ms", .int p.backoffMs),
  ("endpoint", Json.ofOption Json.str p.endpoint),
  ("freshness_window_ms", .int p.freshnessWindowMs),
  ("query_field", .str p.queryField),
  ("request_timeout_ms", .int p.requestTimeoutMs)]

/-- The fields of the passcode settings. -/
def fields : List Wire.Field := [
  Wire.field "endpoint" (Wire.optional Wire.text),
  Wire.field "query_field" Wire.text,
  Wire.field "attempts" Wire.word32,
  Wire.field "backoff_ms" Wire.word64,
  Wire.field "freshness_window_ms" Wire.word64,
  Wire.field "acquisition_retries" Wire.word32,
  Wire.field "request_timeout_ms" Wire.word64]

/-- **Reads passcode settings.** -/
def decode (origin : Origin) (d : Document) : Wire.Result PasscodeConfig := do
  let s ← Wire.slots origin fields d
  let p : PasscodeConfig := {}
  return {
    endpoint := ← s.optional 0 Wire.text
    queryField := ← s.defaulted 1 Wire.text p.queryField
    attempts := ← s.defaulted 2 Wire.word32 p.attempts
    backoffMs := ← s.defaulted 3 Wire.word64 p.backoffMs
    freshnessWindowMs := ← s.defaulted 4 Wire.word64 p.freshnessWindowMs
    acquisitionRetries := ← s.defaulted 5 Wire.word32 p.acquisitionRetries
    requestTimeoutMs := ← s.defaulted 6 Wire.word64 p.requestTimeoutMs }

end PasscodeConfig

namespace BrowserSettings

/-- **The browser's settings as an object.** -/
def encode (b : BrowserSettings) : Json := .obj [
  ("chrome_executable", Json.ofOption Json.str b.chromeExecutable),
  ("headless", .bool b.headless),
  ("no_sandbox", .bool b.noSandbox),
  ("viewport_height", .int b.viewportHeight.toNat),
  ("viewport_width", .int b.viewportWidth.toNat)]

/-- The fields of the browser's settings. -/
def fields : List Wire.Field := [
  Wire.field "headless" Wire.boolean,
  Wire.field "viewport_width" Wire.word32,
  Wire.field "viewport_height" Wire.word32,
  Wire.field "chrome_executable" (Wire.optional Wire.text),
  Wire.field "no_sandbox" Wire.boolean]

/-- **Reads the browser's settings.** -/
def decode (origin : Origin) (d : Document) : Wire.Result BrowserSettings := do
  let s ← Wire.slots origin fields d
  let b : BrowserSettings := {}
  return {
    headless := ← s.defaulted 0 Wire.boolean b.headless
    viewportWidth := ← s.defaulted 1 Wire.word32 b.viewportWidth
    viewportHeight := ← s.defaulted 2 Wire.word32 b.viewportHeight
    chromeExecutable := ← s.optional 3 Wire.text
    noSandbox := ← s.defaulted 4 Wire.boolean b.noSandbox }

end BrowserSettings

namespace EngineConfig

/-- **A configuration as an object.** -/
def encode (c : EngineConfig) : Json := .obj [
  ("abort_policy", c.abortPolicy.encode),
  ("browser", c.browser.encode),
  ("passcode", c.passcode.encode),
  ("timeouts", c.timeouts.encode)]

/-- The fields of a configuration. -/
def fields (origin : Origin) : List Wire.Field := [
  Wire.field "timeouts" (TimeoutConfig.decode origin),
  Wire.field "passcode" (PasscodeConfig.decode origin),
  Wire.field "browser" (BrowserSettings.decode origin),
  Wire.field "abort_policy" (AbortPolicy.decode origin)]

/-- **Reads a configuration.** -/
def decode (origin : Origin) (d : Document) : Wire.Result EngineConfig := do
  let s ← Wire.slots origin (fields origin) d
  return {
    timeouts := ← s.defaulted 0 (TimeoutConfig.decode origin) {}
    passcode := ← s.defaulted 1 (PasscodeConfig.decode origin) {}
    browser := ← s.defaulted 2 (BrowserSettings.decode origin) {}
    abortPolicy := ← s.defaulted 3 (AbortPolicy.decode origin) .continue }

end EngineConfig

end Playback
