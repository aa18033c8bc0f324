import Playback.Config.Load
import Playback.Proofs.Wire.Cell

/-!
# The configuration in a file

A configuration file is a table of tables. Whatever it does not give has its default, and a file that
is missing gives nothing.

* `TimeoutConfig.IsIn`, `PasscodeConfig.IsIn`, `BrowserSettings.IsIn`, `EngineConfig.IsIn` — **the
  documents of a configuration**, in which each field has its value;
* `EngineConfig.LoadedFrom`, `EngineConfig.load_eq_ok_iff` — **the configuration in a file**.
-/

namespace Playback

open Wire

variable {origin : Origin} {d : Document}

/-! ## The tables of a configuration -/

namespace TimeoutConfig

/-- **The fields of timeouts** with their values. -/
def cells (t : TimeoutConfig) : List Cell := [
  .plain "navigation_ms" word64 (some ({} : TimeoutConfig).navigationMs) t.navigationMs,
  .plain "click_ms" word64 (some ({} : TimeoutConfig).clickMs) t.clickMs,
  .plain "change_ms" word64 (some ({} : TimeoutConfig).changeMs) t.changeMs,
  .plain "assert_ms" word64 (some ({} : TimeoutConfig).assertMs) t.assertMs,
  .plain "passcode_ms" word64 (some ({} : TimeoutConfig).passcodeMs) t.passcodeMs,
  .plain "fallback_ms" word64 (some ({} : TimeoutConfig).fallbackMs) t.fallbackMs,
  .plain "load_state_ms" word64 (some ({} : TimeoutConfig).loadStateMs) t.loadStateMs,
  .plain "click_settle_ms" word64 (some ({} : TimeoutConfig).clickSettleMs) t.clickSettleMs]

/-- **The document of timeouts.** -/
def IsIn (origin : Origin) (d : Document) (t : TimeoutConfig) : Prop := RecordIn origin t.cells d

/-- **Timeouts are decoded from their documents**, and from no others. -/
theorem decode_eq_ok_iff (origin : Origin) (d : Document) (t : TimeoutConfig) :
    decode origin d = .ok t ↔ IsIn origin d t := by
  have nodup : (t.cells.map Cell.name).Nodup := by
    change ["navigation_ms", "click_ms", "change_ms", "assert_ms", "passcode_ms", "fallback_ms",
      "load_state_ms", "click_settle_ms"].Nodup
    decide
  refine recordIn_iff nodup fun filled => ?_
  simp only [bind_eq_ok]
  constructor
  · rintro ⟨_, navigationMs, _, clickMs, _, changeMs, _, assertMs, _, passcodeMs, _, fallbackMs,
      _, loadStateMs, _, clickSettleMs, same⟩
    obtain rfl := Except.ok.inj same
    exact ⟨navigationMs, clickMs, changeMs, assertMs, passcodeMs, fallbackMs, loadStateMs,
      clickSettleMs, trivial⟩
  · rintro ⟨navigationMs, clickMs, changeMs, assertMs, passcodeMs, fallbackMs, loadStateMs,
      clickSettleMs, -⟩
    exact ⟨_, navigationMs, _, clickMs, _, changeMs, _, assertMs, _, passcodeMs, _, fallbackMs,
      _, loadStateMs, _, clickSettleMs, rfl⟩

end TimeoutConfig

namespace PasscodeConfig

/-- **The fields of passcode settings** with their values. -/
def cells (p : PasscodeConfig) : List Cell := [
  .plain "endpoint" (optional text) (some none) p.endpoint,
  .plain "query_field" text (some ({} : PasscodeConfig).queryField) p.queryField,
  .plain "attempts" word32 (some ({} : PasscodeConfig).attempts) p.attempts,
  .plain "backoff_ms" word64 (some ({} : PasscodeConfig).backoffMs) p.backoffMs,
  .plain "freshness_window_ms" word64 (some ({} : PasscodeConfig).freshnessWindowMs)
    p.freshnessWindowMs,
  .plain "acquisition_retries" word32 (some ({} : PasscodeConfig).acquisitionRetries)
    p.acquisitionRetries,
  .plain "request_timeout_ms" word64 (some ({} : PasscodeConfig).requestTimeoutMs)
    p.requestTimeoutMs]

/-- **The document of passcode settings.** -/
def IsIn (origin : Origin) (d : Document) (p : PasscodeConfig) : Prop := RecordIn origin p.cells d

/-- **Passcode settings are decoded from their documents**, and from no others. -/
theorem decode_eq_ok_iff (origin : Origin) (d : Document) (p : PasscodeConfig) :
    decode origin d = .ok p ↔ IsIn origin d p := by
  have nodup : (p.cells.map Cell.name).Nodup := by
    change ["endpoint", "query_field", "attempts", "backoff_ms", "freshness_window_ms",
      "acquisition_retries", "request_timeout_ms"].Nodup
    decide
  refine recordIn_iff nodup fun filled => ?_
  simp only [bind_eq_ok]
  constructor
  · rintro ⟨_, endpoint, _, queryField, _, attempts, _, backoffMs, _, freshnessWindowMs,
      _, acquisitionRetries, _, requestTimeoutMs, same⟩
    obtain rfl := Except.ok.inj same
    exact ⟨endpoint, queryField, attempts, backoffMs, freshnessWindowMs, acquisitionRetries,
      requestTimeoutMs, trivial⟩
  · rintro ⟨endpoint, queryField, attempts, backoffMs, freshnessWindowMs, acquisitionRetries,
      requestTimeoutMs, -⟩
    exact ⟨_, endpoint, _, queryField, _, attempts, _, backoffMs, _, freshnessWindowMs,
      _, acquisitionRetries, _, requestTimeoutMs, rfl⟩

end PasscodeConfig

namespace BrowserSettings

/-- **The fields of the browser's settings** with their values. -/
def cells (b : BrowserSettings) : List Cell := [
  .plain "headless" boolean (some ({} : BrowserSettings).headless) b.headless,
  .plain "viewport_width" word32 (some ({} : BrowserSettings).viewportWidth) b.viewportWidth,
  .plain "viewport_height" word32 (some ({} : BrowserSettings).viewportHeight) b.viewportHeight,
  .plain "chrome_executable" (optional text) (some none) b.chromeExecutable,
  .plain "no_sandbox" boolean (some ({} : BrowserSettings).noSandbox) b.noSandbox]

/-- **The document of the browser's settings.** -/
def IsIn (origin : Origin) (d : Document) (b : BrowserSettings) : Prop := RecordIn origin b.cells d

/-- **The browser's settings are decoded from their documents**, and from no others. -/
theorem decode_eq_ok_iff (origin : Origin) (d : Document) (b : BrowserSettings) :
    decode origin d = .ok b ↔ IsIn origin d b := by
  have nodup : (b.cells.map Cell.name).Nodup := by
    change ["headless", "viewport_width", "viewport_height", "chrome_executable",
      "no_sandbox"].Nodup
    decide
  refine recordIn_iff nodup fun filled => ?_
  simp only [bind_eq_ok]
  constructor
  · rintro ⟨_, headless, _, viewportWidth, _, viewportHeight, _, chromeExecutable, _, noSandbox,
      same⟩
    obtain rfl := Except.ok.inj same
    exact ⟨headless, viewportWidth, viewportHeight, chromeExecutable, noSandbox, trivial⟩
  · rintro ⟨headless, viewportWidth, viewportHeight, chromeExecutable, noSandbox, -⟩
    exact ⟨_, headless, _, viewportWidth, _, viewportHeight, _, chromeExecutable, _, noSandbox, rfl⟩

end BrowserSettings

/-! ## Whole configurations -/

namespace EngineConfig

variable {c : EngineConfig} {fs : Files} {path : String}

/-- **The fields of a configuration** with their values. -/
def cells (origin : Origin) (c : EngineConfig) : List Cell := [
  ⟨"timeouts", TimeoutConfig.decode_eq_ok_iff origin, some {}, c.timeouts⟩,
  ⟨"passcode", PasscodeConfig.decode_eq_ok_iff origin, some {}, c.passcode⟩,
  ⟨"browser", BrowserSettings.decode_eq_ok_iff origin, some {}, c.browser⟩,
  .plain "abort_policy" (AbortPolicy.decode origin) (some .continue) c.abortPolicy]

/-- **The document of a configuration.** -/
def IsIn (origin : Origin) (d : Document) (c : EngineConfig) : Prop :=
  RecordIn origin (c.cells origin) d

/-- **A configuration is decoded from its documents**, and from no others. -/
theorem decode_eq_ok_iff : decode origin d = .ok c ↔ IsIn origin d c := by
  have nodup : ((c.cells origin).map Cell.name).Nodup := by
    change ["timeouts", "passcode", "browser", "abort_policy"].Nodup
    decide
  refine recordIn_iff nodup fun filled => ?_
  simp only [bind_eq_ok]
  constructor
  · rintro ⟨_, timeouts, _, passcode, _, browser, _, abortPolicy, same⟩
    obtain rfl := Except.ok.inj same
    exact ⟨timeouts, passcode, browser, abortPolicy, trivial⟩
  · rintro ⟨timeouts, passcode, browser, abortPolicy, -⟩
    exact ⟨_, timeouts, _, passcode, _, browser, _, abortPolicy, rfl⟩

/-- **The configuration in a file**: all defaults if there is no such file, and otherwise that of the
document in its text. -/
inductive LoadedFrom (fs : Files) (path : String) (c : EngineConfig) : Prop where
  | missing (absent : path = "" ∨ fs.readText path = .error .missing ∨
      fs.readText path = .error .notDirectory) (defaults : c = {})
  | read {text : String} {d : Document} (named : path ≠ "") (content : fs.readText path = .ok text)
      (document : Toml.load? text = some d) (config : IsIn .table d c)

/-- The configuration in a text is that of its document. -/
theorem parse_eq_ok_iff {text : String} :
    parse text = .ok c ↔ ∃ d, Toml.load? text = some d ∧ IsIn .table d c := by
  rw [parse]
  cases Toml.load? text with
  | none => simp
  | some d =>
    simp only [Option.some.injEq, exists_eq_left', ← decode_eq_ok_iff]
    cases decode .table d with
    | error fault => simp [Except.mapError]
    | ok c => simp [Except.mapError]

/-- **A configuration is loaded from its files**, and from no others. -/
theorem load_eq_ok_iff : load fs path = .ok c ↔ LoadedFrom fs path c := by
  rw [load]
  by_cases none : path = ""
  · subst none
    constructor
    · exact fun h => .missing (.inl rfl) (Except.ok.inj h).symm
    · rintro (⟨-, rfl⟩ | ⟨named, -, -⟩)
      · rfl
      · exact absurd rfl named
  rw [if_neg (by simpa using none)]
  constructor
  · intro h
    split at h
    · next text content =>
      obtain ⟨d, document, config⟩ := parse_eq_ok_iff.1 h
      exact .read none content document config
    · next absent => exact .missing (.inr (.inl absent)) (Except.ok.inj h).symm
    · next absent => exact .missing (.inr (.inr absent)) (Except.ok.inj h).symm
    · cases h
  · rintro (⟨empty | absent | absent, rfl⟩ | ⟨-, content, document, config⟩)
    · exact absurd empty none
    · rw [absent]
    · rw [absent]
    · rw [content]
      exact parse_eq_ok_iff.2 ⟨_, document, config⟩

end EngineConfig

end Playback
