import Playback.CommandLine.Grammar
import Playback.Config.Load

/-!
# The flags of a run

What the command that runs a script is told on its command line.

* `RunFlags` — **the flags**;
* `RunFlags.ofParsing` — the flags that were read; the configuration file may be named by the
  environment;
* `RunFlags.engineConfig` — the configuration of the run: the file, the environment over it, and
  the flags over both;
* `RunFlags.overrides?` — the test data given on the command line.
-/

namespace Playback.CommandLine

/-- **What a run is told.** -/
structure RunFlags where
  /-- The file of the script. -/
  script : String
  /-- Test data as a JSON object. -/
  data : Option String := none
  /-- The scenario whose data is used. -/
  scenario : Option String := none
  /-- The window is shown. -/
  headed : Bool := false
  haltOnAbort : Bool := false
  passcodeEndpoint : Option String := none
  /-- The configuration file. -/
  config : String := "replaykit.toml"
  deriving DecidableEq, Repr

namespace RunFlags

/-- A path is any text but the empty one. -/
def isPath (s : String) : Bool := s ≠ ""

/-- The options of a run. -/
def options : List OptionSpec := [
  ⟨"script", some 's', .valued isPath⟩,
  ⟨"data", none, .valued fun _ => true⟩,
  ⟨"scenario", none, .valued fun _ => true⟩,
  ⟨"headed", none, .flag⟩,
  ⟨"halt-on-abort", none, .flag⟩,
  ⟨"passcode-endpoint", none, .valued fun _ => true⟩,
  ⟨"config", none, .valued isPath⟩]

/-- The variable that names the configuration file. -/
def configVariable : String := "REPLAYKIT_CONFIG"

/-- The configuration file: that of the flag, of the environment, or the usual one. -/
def configPath (env : Environment) (p : Parsing) : Except UsageError String :=
  match p.given.get? "config", env.get? configVariable with
  | some path, _ => .ok path
  | none, some path => if isPath path then .ok path else .error .invalidValue
  | none, none => .ok "replaykit.toml"

/-- **The flags that were read.** A script must be among them. -/
def ofParsing (env : Environment) (p : Parsing) : Except UsageError RunFlags := do
  let p ← p.settle
  let config ← configPath env p
  match p.given.get? "script" with
  | none => .error .missingRequiredArgument
  | some script =>
    .ok {
      script
      data := p.given.get? "data"
      scenario := p.given.get? "scenario"
      headed := p.given.contains "headed"
      haltOnAbort := p.given.contains "halt-on-abort"
      passcodeEndpoint := p.given.get? "passcode-endpoint"
      config }

/-- The flags on a command line of their own. -/
def parse (env : Environment) (argv : List String) : Except UsageError RunFlags := do
  let spec : CommandSpec := ⟨options ++ [⟨"help", some 'h', .help⟩], none, []⟩
  let (p, _) ← spec.parse {} argv
  ofParsing env p

/-- Lays the flags over a configuration. -/
def applyTo (f : RunFlags) (c : EngineConfig) : EngineConfig where
  timeouts := c.timeouts
  passcode := { c.passcode with
    endpoint := f.passcodeEndpoint.orElse fun _ => c.passcode.endpoint }
  browser := { c.browser with headless := !f.headed && c.browser.headless }
  abortPolicy := if f.haltOnAbort then .haltOnAbort else c.abortPolicy

/-- **The configuration of a run**: the file, the environment, the flags. -/
def engineConfig (f : RunFlags) (fs : Files) (env : Environment) :
    Except ConfigError EngineConfig := do
  let c ← EngineConfig.load fs f.config
  return f.applyTo (c.withOverrides env)

/-- What is said of test data that cannot be read. -/
def badData : String := "--data must be a JSON object with string values"

/-- **The test data on a command line**, `none` if it is not an object of texts. -/
def overrides? : Option String → Option TestData
  | none => some Dict.empty
  | some text => (Wire.ofText TestData.decode text).toOption

end RunFlags

end Playback.CommandLine
