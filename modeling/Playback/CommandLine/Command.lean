import Playback.CommandLine.Flags
import Playback.Console.Report
import Playback.Run.Session

/-!
# Commands

The program has two commands: one runs a script in a browser, the other checks script files.

* `Command` — **what the program is asked to do**;
* `Command.parse` — reads a command line;
* `Command.prepare` — what a run starts with, or why there is none;
* `Output.validate` — the check of script files.
-/

namespace Playback.CommandLine

/-- **What the program is asked to do.** -/
inductive Command where
  /-- Runs a script. -/
  | run (format : OutputFormat) (flags : RunFlags)
  /-- Checks script files. -/
  | validate (format : OutputFormat) (files : List String)
  /-- Shows the version of the program or of one of its commands. -/
  | showVersion (program : String)
  /-- Shows how to use the program. -/
  | showHelp
  deriving Repr

namespace Command

/-- The options of every command. -/
def commonOptions : List OptionSpec := [
  ⟨"format", none, .valued fun s => (OutputFormat.ofName? s).isSome⟩,
  ⟨"verbose", some 'v', .flag⟩,
  ⟨"help", some 'h', .help⟩,
  ⟨"version", some 'V', .version⟩]

/-- What the program understands before the name of a command. -/
def program : CommandSpec := ⟨commonOptions, none, ["run", "validate", "help"]⟩

/-- What the command that runs a script understands. -/
def runSpec : CommandSpec := ⟨commonOptions ++ RunFlags.options, none, []⟩

/-- What the command that checks scripts understands. -/
def validateSpec : CommandSpec := ⟨commonOptions, some RunFlags.isPath, []⟩

/-- The form of output: as given after the command, or before it, or plain. -/
def format (inner outer : Parsing) : OutputFormat :=
  (((inner.given.get? "format").orElse fun _ => outer.given.get? "format").bind
    OutputFormat.ofName?).getD .plain

/-- The version of a program, where that is asked for. -/
def orVersion (shown : String) (r : Except UsageError Command) : Except UsageError Command :=
  match r with
  | .error .displayVersion => .ok (.showVersion shown)
  | .error .displayHelp => .ok .showHelp
  | r => r

/-- Reads the words after `run`. -/
def parseRun (env : Environment) (outer : Parsing) (words : List String) :
    Except UsageError Command := do
  let (p, _) ← runSpec.parse {} words
  let flags ← RunFlags.ofParsing env p
  let inner ← p.settle
  let outer ← outer.settle
  return .run (format inner outer) flags

/-- Reads the words after `validate`. -/
def parseValidate (outer : Parsing) (words : List String) : Except UsageError Command := do
  let (p, _) ← validateSpec.parse {} words
  let inner ← p.settle
  if inner.operands.isEmpty then .error .missingRequiredArgument
  else
    let outer ← outer.settle
    return .validate (format inner outer) inner.operands

/-- Reads the words after `help`, which name a command. -/
def parseHelp (words : List String) : Except UsageError Command :=
  match words with
  | [] => .ok .showHelp
  | [w] => if program.subcommands.contains w then .ok .showHelp else .error .invalidSubcommand
  | _ => .error .invalidSubcommand

/-- **Reads a command line.** -/
def parse (env : Environment) (argv : List String) : Except UsageError Command :=
  orVersion "replaykit" do
    match ← program.parse {} argv with
    | (outer, some ("run", words)) => orVersion "replaykit-run" (parseRun env outer words)
    | (outer, some ("validate", words)) =>
      orVersion "replaykit-validate" (parseValidate outer words)
    | (_, some (_, words)) => parseHelp words
    | (outer, none) => do
      let _ ← outer.settle
      .error .missingSubcommand

/-- The line that shows a version. -/
def versionLine (shown : String) : String := shown ++ " 0.1.0"

/-- **Why a run cannot start.** -/
inductive StartError where
  | script (error : ScriptError)
  /-- The test data on the command line cannot be read. -/
  | data
  | config (error : ConfigError)
  deriving DecidableEq, Repr

/-- The text of a start error. -/
def StartError.message : StartError → String
  | script e => e.message
  | data => RunFlags.badData
  | config e => e.message

/-- **What a run starts with**: its configuration and the request, under a session name. The script
is looked at first, then the test data, then the configuration. -/
def prepare (fs : Files) (env : Environment) (sessionId : String) (flags : RunFlags) :
    Except StartError (EngineConfig × RunRequest) := do
  let script ← (TestScript.load fs flags.script flags.script).mapError .script
  match RunFlags.overrides? flags.data with
  | none => .error .data
  | some overrides => do
    let data ← (script.resolveData flags.scenario overrides).mapError .script
    let config ← (flags.engineConfig fs env).mapError .config
    return (config, RunRequest.ofScript sessionId script data config.browser.headless)

/-- **Checks script files**: what is written, and whether all could be loaded. -/
def validated (fs : Files) (format : OutputFormat) (files : List String) : Output × Bool :=
  let rs := files.map fun f => ScriptReport.ofResult f (TestScript.load fs f f)
  (({} : Output).reports format rs, rs.all ScriptReport.isLoadable)

end Command

end Playback.CommandLine
