import Playback.Script.Files
import Playback.Toml.Load
import Playback.Wire.Config

/-!
# Configuration files

`EngineConfig.load` reads **the configuration in a file**. A file that is missing is as good as an
empty one.
-/

namespace Playback

/-- **Why a configuration cannot be had.** -/
inductive ConfigError where
  | io (error : ReadError)
  /-- The file holds no configuration. -/
  | unfit
  deriving DecidableEq, Repr

/-- The text of a configuration error. What is wrong with a file is not told. -/
def ConfigError.message : ConfigError → String
  | io e => "IO error: " ++ e.message
  | unfit => "Configuration error"

namespace EngineConfig

/-- The configuration in a text. -/
def parse (text : String) : Except ConfigError EngineConfig :=
  match Toml.load? text with
  | none => .error .unfit
  | some d => (decode .table d).mapError fun _ => .unfit

/-- **The configuration in a file**, by its written path. -/
def load (fs : Files) (path : String) : Except ConfigError EngineConfig :=
  -- nothing has an empty path, and a path through a file names nothing either
  if path.isEmpty then .ok {}
  else
    match fs.readText path with
    | .ok text => parse text
    | .error .missing => .ok {}
    | .error .notDirectory => .ok {}
    | .error e => .error (.io e)

end EngineConfig

end Playback
