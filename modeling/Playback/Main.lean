import Playback.CommandLine.Launch

/-!
# The program

Gathers what a command line may need (the environment, the files it names, a random session name),
and writes what the library makes of it.
-/

namespace Playback

/-- The variables of the environment that are looked at. -/
def variableNames : List String := [
  EngineConfig.headlessVariable, EngineConfig.noSandboxVariable,
  EngineConfig.chromePathVariable, EngineConfig.endpointVariable,
  EngineConfig.abortPolicyVariable, EngineConfig.fallbackVariable,
  CommandLine.RunFlags.configVariable]

/-- Reads the environment. -/
def readEnvironment : IO Environment := do
  let found ← variableNames.mapM fun name =>
    return (← IO.getEnv name).map fun value => (name, value)
  return Dict.ofList (found.filterMap id)

/-- Reads the file at a path. A directory counts as holding a file without a name. -/
def readFile (path : String) : IO (List (FilePath × FileContent)) := do
  let names := (Files.splitPath path).1
  try
    return [(names, .bytes (← IO.FS.readBinFile path).toList)]
  catch
    | .noFileOrDirectory .. => return []
    | .permissionDenied .. => return [(names, .barred "Permission denied (os error 13)")]
    | _ => return [(names ++ [""], .bytes [])]

/-- The files that a command may read, as far as its words name them. -/
def filesNamed : CommandLine.Command → List String
  | .run _ flags => [flags.script, flags.config]
  | .validate _ files => files
  | .showVersion _ => []
  | .showHelp => []

/-- The browser's program under a configuration, as another file to look at. -/
def browserFile (fs : Files) (env : Environment) : CommandLine.Command → List String
  | .run _ flags =>
    match flags.engineConfig fs env with
    | .ok c => c.browser.chromeExecutable.toList
    | .error _ => []
  | _ => []

/-- Reads the files that a command line needs. -/
def gather (env : Environment) (argv : List String) : IO Files := do
  match CommandLine.Command.parse env argv with
  | .error _ => return ⟨[]⟩
  | .ok command =>
    let named ← (filesNamed command).mapM readFile
    let more ← (browserFile ⟨named.flatten⟩ env command).mapM readFile
    return ⟨named.flatten ++ more.flatten⟩

end Playback

/-- **The program.** -/
def main (argv : List String) : IO UInt32 := do
  let env ← Playback.readEnvironment
  let files ← Playback.gather env argv
  let name := Playback.CommandLine.sessionName (← IO.getRandomBytes 16).toList
  let styled ← (← IO.getStdout).isTty
  let (output, code) := Playback.CommandLine.execute files env name styled argv
  (← IO.getStdout).putStr output.stdout
  (← IO.getStderr).putStr output.stderr
  return UInt32.ofNat code
