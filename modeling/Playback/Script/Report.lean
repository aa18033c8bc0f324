import Playback.Script.Library

/-!
# Reports on script files

What the check of a script file tells: the script's name, the number of its steps and its issues, or
why it cannot be loaded.
-/

namespace Playback

/-- **What the check of a script file tells.** -/
structure ScriptReport where
  /-- The file as it was named. -/
  file : String
  name : Option String := none
  steps : Nat := 0
  issues : List String := []
  /-- Why the script cannot be loaded. -/
  error : Option String := none
  deriving Inhabited

namespace ScriptReport

/-- The report on a file that was loaded or not. -/
def ofResult (file : String) : Except ScriptError TestScript → ScriptReport
  | .ok t => { file, name := some t.name, steps := t.steps.length,
               issues := t.lint.map TestScript.Issue.message }
  | .error e => { file, error := some e.message }

/-- Whether the script was loaded. -/
def isLoadable (r : ScriptReport) : Bool := r.error.isNone

/-- **A report as an object.** -/
def fields (r : ScriptReport) : List (String × Json) := [
  ("file", .str r.file),
  ("name", Json.ofOption Json.str r.name),
  ("steps", .int r.steps),
  ("issues", .arr (r.issues.map Json.str)),
  ("error", Json.ofOption Json.str r.error)]

/-- A report as an object. -/
def encode (r : ScriptReport) : Json := .obj r.fields

end ScriptReport

end Playback
