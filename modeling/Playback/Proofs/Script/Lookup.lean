import Mathlib.Data.List.Basic
import Playback.Script.Library

/-!
# Looking a script up

A script is asked for by the stem of its file's name.

* `Library.mem_scripts` — **the script files** are the files with the ending of one;
* `Library.file?`, `Library.file?_eq_none_iff` — **the file of a stem**, which there is unless no
  script file has the stem; `Library.file?_spec` says that it is one of them;
* `Library.Found`, `Library.found` — **what comes of looking a script up**, from the file to the
  script in it.
-/

namespace Playback

namespace Library

variable {files : Library} {f g : FilePath × FileContent} {stem : String}

/-! ## Files -/

/-- A file that is put at its place is there, beside the others. -/
theorem mem_insertFile : f ∈ insertFile g files ↔ f = g ∨ f ∈ files := by
  induction files with
  | nil => rw [insertFile, List.mem_singleton, or_iff_left List.not_mem_nil]
  | cons first rest ih =>
    rw [insertFile]
    split
    · exact List.mem_cons
    · rw [List.mem_cons, ih, List.mem_cons, or_left_comm]

/-- Files that are put at their places are there. -/
theorem mem_foldr_insertFile : f ∈ files.foldr insertFile [] ↔ f ∈ files := by
  induction files with
  | nil => rfl
  | cons first rest ih => rw [List.foldr_cons, mem_insertFile, ih, List.mem_cons]

/-- **The script files** are the files with the ending of one. -/
theorem mem_scripts : f ∈ files.scripts ↔ f ∈ files ∧ isScript f.1 = true := by
  rw [scripts, mem_foldr_insertFile, List.mem_filter]

/-- **The file of a stem**: the first script file that has it. -/
def file? (files : Library) (stem : String) : Option (FilePath × FileContent) :=
  files.scripts.find? fun f => FilePath.stem f.1 == stem

/-- **There is a file of a stem** unless no script file has it. -/
theorem file?_eq_none_iff : files.file? stem = none ↔
    ∀ f ∈ files, isScript f.1 = true → FilePath.stem f.1 ≠ stem := by
  rw [file?, List.find?_eq_none]
  simp only [mem_scripts, and_imp, beq_iff_eq]

/-- The file of a stem is a script file that has it. -/
theorem file?_spec (found : files.file? stem = some f) :
    f ∈ files ∧ isScript f.1 = true ∧ FilePath.stem f.1 = stem := by
  obtain ⟨mem, ending⟩ := mem_scripts.1 (List.mem_of_find?_eq_some found)
  exact ⟨mem, ending, by simpa using List.find?_some found⟩

end Library

/-! ## Scripts -/

/-- A script with the name of its file, if it has none of its own. -/
def TestScript.named (script : TestScript) (stem : String) : TestScript :=
  if script.name.isEmpty then { script with name := stem } else script

/-- The scenarios of a script do not depend on its name. -/
@[simp] theorem TestScript.dataScenarios_named (script : TestScript) (stem : String) :
    (script.named stem).dataScenarios = script.dataScenarios := by
  rw [named]
  split <;> rfl

/-- **What comes of looking a script up.** -/
inductive Library.Found (files : Library) (root name : String) :
    Except ScriptError TestScript → Prop where
  /-- No script file has the stem. -/
  | missing (absent : files.file? name = none) : Found files root name (.error (.scriptNotFound name))
  /-- The file cannot be read as a text. -/
  | unreadable {f : FilePath × FileContent} {e : ReadError} (file : files.file? name = some f)
      (unread : f.2.text = .error e) : Found files root name (.error (.io e))
  /-- There is no script in the text. -/
  | invalid {f : FilePath × FileContent} {text : String} {fault : TextFault}
      (file : files.file? name = some f) (isText : f.2.text = .ok text)
      (unparsed : TestScript.parse text = .error fault) :
      Found files root name (.error (.invalidScript (root ++ "/" ++ "/".intercalate f.1) fault))
  /-- There is one, which is named for the file if it has no name. -/
  | loaded {f : FilePath × FileContent} {text : String} {script : TestScript}
      (file : files.file? name = some f) (isText : f.2.text = .ok text)
      (parsed : TestScript.parse text = .ok script) : Found files root name (.ok (script.named name))

/-- **A script is looked up** by its file, which is read, and then parsed. -/
theorem Library.found (files : Library) (root name : String) :
    files.Found root name (files.find root name) := by
  have lookup : files.find root name = match files.file? name with
      | none => .error (.scriptNotFound name)
      | some f => TestScript.ofContent (root ++ "/" ++ "/".intercalate f.1) name f.2 := by
    rw [find, file?]
    cases files.scripts.find? fun f => FilePath.stem f.1 == name <;> rfl
  rw [lookup]
  -- one case for each place where the look-up may end
  cases file : files.file? name with
  | none => exact .missing file
  | some f =>
    dsimp only [TestScript.ofContent]
    cases isText : f.2.text with
    | error e => exact .unreadable file isText
    | ok text =>
      dsimp only
      cases parsed : TestScript.parse text with
      | error fault => exact .invalid file isText parsed
      | ok script => exact .loaded file isText parsed

end Playback
