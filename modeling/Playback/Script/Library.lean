import Playback.Script.Files
import Playback.Wire.Script
import Playback.Yaml.Load

/-!
# Libraries of scripts

Scripts are found by the stem of their file's name anywhere below a directory.

* `TestScript.parse` — the script in a text;
* `TestScript.ofContent` — the script in a file, named for the file if it has no name;
* `Library.names`, `Library.find` — the stems of all scripts, and the script with one. Both go
  through the files in the order of their paths.
-/

namespace Playback

/-- **Why a text holds no script.** -/
inductive TextFault where
  /-- It is not one well-formed document. -/
  | malformed
  /-- The document is neither a script nor a list of steps. -/
  | unfit
  deriving DecidableEq, Repr

/-- The text of a fault. Where and how a document is malformed is not told. -/
def TextFault.message : TextFault → String
  | malformed => "<syntax>"
  | unfit => "data did not match any variant of untagged enum ScriptFile"

/-- **Why a script cannot be had.** -/
inductive ScriptError where
  | io (error : ReadError)
  | yaml (fault : TextFault)
  | scriptNotFound (name : String)
  | invalidScript (path : String) (fault : TextFault)
  | unknownScenario (script scenario : String)
  deriving DecidableEq, Repr

/-- The text of a fault in the notation of scripts. -/
def TextFault.inYaml (fault : TextFault) : String := "YAML error: " ++ fault.message

/-- The text of a script error. -/
def ScriptError.message : ScriptError → String
  | io e => "IO error: " ++ e.message
  | yaml fault => fault.inYaml
  | scriptNotFound name => "Test case not found: " ++ name
  | invalidScript path fault => "Invalid script: " ++ path ++ ": " ++ fault.inYaml
  | unknownScenario script scenario =>
    "Unknown data scenario '" ++ scenario ++ "' for test case " ++ script

namespace TestScript

/-- **The script in a text.** The document must fit before anything after it is looked at. -/
def parse (text : String) : Except TextFault TestScript :=
  let loaded := Yaml.load text
  match loaded.document with
  | none => .error .malformed
  | some d =>
    match ofDocument? d with
    | none => .error .unfit
    -- a second document is only met after the first one fits
    | some t => if loaded.isSingle then .ok t else .error .malformed

/-- **The script in what a file holds**: `shown` is the path in messages, `stem` the name it gets if
it has none of its own. -/
def ofContent (shown stem : String) (content : FileContent) : Except ScriptError TestScript :=
  match content.text with
  | .error e => .error (.io e)
  | .ok text =>
    match parse text with
    | .error fault => .error (.invalidScript shown fault)
    | .ok t => .ok (if t.name.isEmpty then { t with name := stem } else t)

/-- The script in a file, by the file's written path; `shown` is the path in messages. -/
def load (fs : Files) (shown path : String) : Except ScriptError TestScript :=
  match fs.content path with
  | .error e => .error (.io e)
  | .ok content => ofContent shown (FilePath.stem (Files.splitPath path).1) content

/-- The test data of a run, or the error that a missing scenario is. -/
def resolveData (script : TestScript) (scenario : Option String) (overrides : TestData) :
    Except ScriptError TestData :=
  match script.resolveData? scenario overrides with
  | some data => .ok data
  | none => .error (.unknownScenario script.name (scenario.getD ""))

end TestScript

/-- **The files below a directory**, by their paths from there. -/
abbrev Library := List (FilePath × FileContent)

namespace Library

/-- The endings of script files. -/
def isScript (p : FilePath) : Bool :=
  match p.ending? with
  | some e => e == "json" || e == "yaml" || e == "yml"
  | none => false

/-- Puts a file before the first one that comes after it. -/
def insertFile (f : FilePath × FileContent) : Library → Library
  | [] => [f]
  | g :: rest => if f.1.before g.1 then f :: g :: rest else g :: insertFile f rest

/-- **The script files** in the order of their paths. -/
def scripts (files : Library) : Library :=
  (files.filter fun f => isScript f.1).foldr insertFile []

/-- The stems of all script files. -/
def names (files : Library) : List String := files.scripts.map fun f => FilePath.stem f.1

/-- **The script with a stem**: the first of them. `root` is the directory in messages. -/
def find (root : String) (files : Library) (name : String) : Except ScriptError TestScript :=
  match files.scripts.find? fun f => FilePath.stem f.1 == name with
  | none => .error (.scriptNotFound name)
  | some (p, content) => TestScript.ofContent (root ++ "/" ++ "/".intercalate p) name content

end Library

/-- The files below a directory of a file system; a file is below itself, where its written path
does not insist on a directory. -/
def Files.below (fs : Files) (text : String) : Library :=
  let (names, insists) := splitPath text
  match fs.resolve names [] with
  | .error _ => []
  | .ok p =>
    if insists && !names.isEmpty && (fs.content? p).isSome then []
    else fs.entries.filter fun e => p.isPrefixOf e.1

end Playback
