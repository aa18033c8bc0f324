import Mathlib.Data.List.Forall2
import Mathlib.Data.List.Lex
import Mathlib.Data.String.Basic
import Playback.Proofs.Script.Lookup
import Playback.Proofs.Script.Paths

/-!
# Scripts in a directory tree

The scripts below a directory are listed, and looked up, in the order of their paths. In which order
the files are come upon does not matter.

* `FilePath.Precedes` — **the order of paths**, name by name;
* `Library.IsShelf`, `Library.isShelf_iff` — **the script files in order**, each once; there is one
  such list;
* `Library.LooksUp`, `Library.looksUp_of_tree` — **what is listed and found below a directory**, for
  all directories of all trees.
-/

namespace Playback

namespace FilePath

/-! ## The order of paths -/

/-- **A path precedes another** if it ends where the other one goes on, or if its name is the smaller
one where they part. -/
def Precedes (p q : FilePath) : Prop := List.Lex (· < ·) p q

/-- Paths are compared name by name. -/
theorem before_iff {p q : FilePath} : before p q = true ↔ p.Precedes q := by
  fun_induction before p q with
  | case1 => exact ⟨nofun, nofun⟩
  | case2 => exact iff_of_true rfl .nil
  | case3 => exact ⟨nofun, nofun⟩
  | case4 as name bs ih =>
    rw [ih]
    constructor
    · exact .cons
    · intro h
      cases h with
      | rel smaller => exact absurd smaller (lt_irrefl name)
      | cons rest => exact rest
  | case5 a as b bs other =>
    rw [decide_eq_true_iff]
    constructor
    · exact .rel
    · intro h
      cases h with
      | rel smaller => exact smaller
      | cons _ => exact absurd rfl other

/-- No path precedes itself, -/
theorem not_precedes_self (p : FilePath) : ¬ p.Precedes p := List.lt_irrefl p

/-- what comes later comes after all that is before, -/
theorem Precedes.trans {p q r : FilePath} (first : p.Precedes q) (second : q.Precedes r) :
    p.Precedes r :=
  List.lt_trans first second

/-- and of two paths one precedes the other. -/
theorem precedes_of_not {p q : FilePath} (distinct : p ≠ q) (not : ¬ p.Precedes q) : q.Precedes p :=
  (lt_or_gt_of_ne distinct).resolve_left not

end FilePath

namespace Library

open FilePath

variable {files walk shelf : Library} {f g : FilePath × FileContent} {stem : String}

/-! ## Files in order -/

/-- A file is put among the others. -/
theorem perm_insertFile (f : FilePath × FileContent) (files : Library) :
    (insertFile f files).Perm (f :: files) := by
  induction files with
  | nil => exact .refl _
  | cons g rest ih =>
    rw [insertFile]
    split
    · exact .refl _
    · exact (ih.cons g).trans (.swap f g rest)

/-- **Files are kept in order** when another one is put at its place. -/
theorem sorted_insertFile (sorted : files.Pairwise fun f g => f.1.Precedes g.1)
    (new : ∀ g ∈ files, f.1 ≠ g.1) : (insertFile f files).Pairwise fun f g => f.1.Precedes g.1 := by
  induction files with
  | nil => exact List.pairwise_singleton _ _
  | cons g rest ih =>
    obtain ⟨first, others⟩ := List.pairwise_cons.1 sorted
    obtain ⟨other, fresh⟩ := List.forall_mem_cons.1 new
    rw [insertFile]
    split
    · next before =>
      have ahead := before_iff.1 before
      refine List.pairwise_cons.2 ⟨List.forall_mem_cons.2 ⟨ahead, fun h mem => ?_⟩, sorted⟩
      exact ahead.trans (first h mem)
    · next behind =>
      refine List.pairwise_cons.2 ⟨fun h mem => ?_, ih others fresh⟩
      rcases List.mem_cons.1 ((perm_insertFile f rest).subset mem) with rfl | mem
      · exact precedes_of_not other (before_iff.not.1 behind)
      · exact first h mem

/-- **The script files of a directory are in order.** -/
theorem sorted_scripts (distinct : (files.map (·.1)).Nodup) :
    files.scripts.Pairwise fun f g => f.1.Precedes g.1 := by
  have kept : ((files.filter fun f => isScript f.1).map (·.1)).Nodup :=
    distinct.sublist (List.filter_sublist.map _)
  rw [scripts]
  generalize (files.filter fun f => isScript f.1) = rest at kept
  induction rest with
  | nil => exact .nil
  | cons f rest ih =>
    rw [List.map_cons, List.nodup_cons] at kept
    refine sorted_insertFile (ih kept.2) fun g mem same => kept.1 ?_
    exact same ▸ List.mem_map_of_mem (mem_foldr_insertFile.1 mem)

/-- **The script files among some files, in order**: each once, in the order of their paths. -/
structure IsShelf (files shelf : Library) : Prop where
  mem_iff : ∀ f, f ∈ shelf ↔ f ∈ files ∧ ∃ stem, f.1.IsScriptNamed stem
  sorted : shelf.Pairwise fun f g => f.1.Precedes g.1

/-- A path that is that of a script file has a stem. -/
theorem exists_isScriptNamed_iff {p : FilePath} :
    (∃ stem, p.IsScriptNamed stem) ↔ isScript p = true := by
  simp only [isScriptNamed_iff, exists_and_left, exists_eq', and_true]

/-- Files in order are distinct. -/
theorem nodup_of_sorted (sorted : shelf.Pairwise fun f g => f.1.Precedes g.1) : shelf.Nodup :=
  sorted.imp fun {f g} ahead (same : f = g) => not_precedes_self g.1 (same ▸ ahead)

/-- **There is one list of the script files in order.** -/
theorem isShelf_iff (distinct : (files.map (·.1)).Nodup) :
    files.IsShelf shelf ↔ shelf = files.scripts := by
  have sorted := sorted_scripts distinct
  constructor
  · intro h
    have perm : shelf.Perm files.scripts := by
      refine (List.perm_ext_iff_of_nodup (nodup_of_sorted h.sorted) (nodup_of_sorted sorted)).2 ?_
      intro f
      rw [h.mem_iff, mem_scripts, exists_isScriptNamed_iff]
    refine perm.eq_of_pairwise (fun f g _ _ ahead behind => ?_) h.sorted sorted
    exact absurd (ahead.trans behind) (not_precedes_self f.1)
  · rintro rfl
    exact ⟨fun f => by rw [mem_scripts, exists_isScriptNamed_iff], sorted⟩

/-- **The script files are in the same order** however the files are come upon. -/
theorem scripts_of_perm (distinct : (files.map (·.1)).Nodup) (walked : walk.Perm files) :
    walk.scripts = files.scripts := by
  have distinct' : (walk.map (·.1)).Nodup := (walked.map _).nodup_iff.2 distinct
  refine (isShelf_iff distinct).1 ⟨fun f => ?_, sorted_scripts distinct'⟩
  rw [mem_scripts, walked.mem_iff, exists_isScriptNamed_iff]

/-! ## Look-up -/

/-- The stems are those of the script files. -/
theorem mem_names : stem ∈ files.names ↔ ∃ f ∈ files.scripts, FilePath.stem f.1 = stem :=
  List.mem_map

/-- **No script is found** exactly if no script file has the stem. -/
theorem find_eq_scriptNotFound_iff {root name : String} :
    files.find root stem = .error (.scriptNotFound name) ↔ name = stem ∧ stem ∉ files.names := by
  have absent_iff : files.file? stem = none ↔ stem ∉ files.names := by
    rw [file?, List.find?_eq_none, mem_names]
    simp
  have found := files.found root stem
  constructor
  · intro missing
    rw [missing] at found
    cases found with
    | missing absent => exact ⟨rfl, absent_iff.1 absent⟩
  · rintro ⟨rfl, none⟩
    rw [find]
    have absent := absent_iff.2 none
    rw [file?] at absent
    rw [absent]

/-- **The first of some files in order with a stem.** -/
structure IsFirst (shelf : Library) (stem : String) (f : FilePath × FileContent) : Prop where
  split : ∃ before after, shelf = before ++ f :: after ∧ ∀ g ∈ before, ¬ g.1.IsScriptNamed stem
  named : f.1.IsScriptNamed stem

/-- **A stem that is listed is that of a first file.** -/
theorem exists_isFirst (listed : stem ∈ files.names) :
    ∃ f, files.file? stem = some f ∧ files.scripts.IsFirst stem f := by
  obtain ⟨g, mem, same⟩ := mem_names.1 listed
  cases found : files.file? stem with
  | none => exact absurd (beq_iff_eq.2 same) (List.find?_eq_none.1 found g mem)
  | some f =>
    refine ⟨f, rfl, ?_, isScriptNamed_iff.2 (file?_spec found).2⟩
    obtain ⟨-, before, after, split, others⟩ := List.find?_eq_some_iff_append.1 found
    refine ⟨before, after, split, fun g among named => ?_⟩
    simpa [named.stem_eq] using others g among

/-- **The file of a stem is loaded.** -/
theorem find_eq_load {fs : Files} (tree : fs.IsTree) (inside : ∀ f ∈ files, f ∈ fs.entries)
    (found : files.file? stem = some f) (root : String) :
    files.find root stem = TestScript.load fs (root ++ "/" ++ f.1.written) f.1.written := by
  obtain ⟨mem, -, same⟩ := file?_spec found
  obtain ⟨nonempty, names⟩ := tree.names f (inside f mem)
  rw [file?] at found
  rw [find, found, TestScript.load, tree.content_written (inside f mem),
    Files.splitPath_written nonempty names, same]
  rfl

/-- **What is listed and found below a directory**, whose files are come upon in some order. -/
structure LooksUp (fs : Files) (dir : FilePath) (walk : Library) : Prop where
  /-- The files that are come upon are those below the directory. -/
  mem_iff : ∀ f, f ∈ walk ↔ f ∈ fs.entries ∧ dir <+: f.1
  /-- There is a list of the script files among them, each once, in the order of their paths. Their
  stems are listed, and the first one with a stem is loaded when that is asked for. -/
  ordered : ∃ shelf : Library, walk.IsShelf shelf ∧
    List.Forall₂ (fun f stem => f.1.IsScriptNamed stem) shelf walk.names ∧
    ∀ stem ∈ walk.names, ∃ f, shelf.IsFirst stem f ∧ ∀ root,
      walk.find root stem = TestScript.load fs (root ++ "/" ++ f.1.written) f.1.written
  /-- No script is found exactly if the stem is not listed. -/
  missing_iff : ∀ root stem name,
    walk.find root stem = .error (.scriptNotFound name) ↔ name = stem ∧ stem ∉ walk.names
  /-- A script that is found has the name that is given in its file, or else the stem. -/
  named : ∀ root stem script, walk.find root stem = .ok script → ∃ f ∈ walk, ∃ text own,
    f.1.IsScriptNamed stem ∧ f.2.text = .ok text ∧ TestScript.parse text = .ok own ∧
    script = { own with name := if own.name = "" then stem else own.name }
  /-- The order in which the files are come upon does not matter. -/
  order : walk.names = (fs.below dir.written).names ∧
    ∀ root stem, walk.find root stem = (fs.below dir.written).find root stem

/-- A script that is named for its file has the stem for a name only if it has none. -/
theorem named_eq (script : TestScript) (stem : String) :
    script.named stem = { script with name := if script.name = "" then stem else script.name } := by
  rw [TestScript.named]
  by_cases none : script.name = ""
  · simp [none]
  · simp [none]

/-- **In every directory tree**, scripts are listed and found below every directory. -/
theorem looksUp_of_tree {fs : Files} (tree : fs.IsTree) {dir : FilePath}
    (names : ∀ name ∈ dir, IsFileName name) {walk : Library}
    (walked : walk.Perm (fs.below dir.written)) :
    walk.LooksUp fs dir := by
  have below := tree.below_written names
  have mem_iff : ∀ f, f ∈ walk ↔ f ∈ fs.entries ∧ dir <+: f.1 := by
    intro f
    rw [walked.mem_iff, below, List.mem_filter, List.isPrefixOf_iff_prefix]
  have inside : ∀ f ∈ walk, f ∈ fs.entries := fun f mem => ((mem_iff f).1 mem).1
  have distinct : ((fs.below dir.written).map (·.1)).Nodup := by
    rw [below]
    exact tree.nodup.sublist (List.filter_sublist.map _)
  have distinct' : (walk.map (·.1)).Nodup := (walked.map _).nodup_iff.2 distinct
  have shelf : walk.IsShelf walk.scripts := (isShelf_iff distinct').2 rfl
  have same : walk.scripts = (fs.below dir.written).scripts := scripts_of_perm distinct walked
  refine ⟨mem_iff, ⟨walk.scripts, shelf, ?_, ?_⟩, fun _ _ _ => find_eq_scriptNotFound_iff, ?_, ?_,
    ?_⟩
  · refine List.forall₂_map_right_iff.2 (List.forall₂_same.2 fun f mem => ?_)
    exact isScriptNamed_iff.2 ⟨(mem_scripts.1 mem).2, rfl⟩
  · intro stem listed
    obtain ⟨f, found, first⟩ := exists_isFirst listed
    exact ⟨f, first, find_eq_load tree inside found⟩
  · intro root stem script loaded
    have found := walk.found root stem
    rw [loaded] at found
    cases found with
    | @loaded f text own file isText parsed =>
      obtain ⟨mem, isScript, stem_eq⟩ := file?_spec file
      exact ⟨f, mem, text, own, isScriptNamed_iff.2 ⟨isScript, stem_eq⟩, isText, parsed,
        named_eq own stem⟩
  · rw [Library.names, same, Library.names]
  · intro root stem
    rw [find, find, same]

/-- A tree in which paths are ordered otherwise than their texts, and names have several dots. -/
def nested : Files where
  entries := [
    (["suite.json"], .bytes []),
    (["suite", "login.v2.yaml"], .bytes []),
    (["suite-a.yml"], .bytes []),
    (["notes.txt"], .bytes []),
    ([".json"], .bytes []),
    (["suite", "login.json"], .bytes [])]

/-- Below its root, the scripts in directories come first. -/
theorem looksUp_of_nested : nested.IsTree ∧ nested.entries.reverse.Perm (nested.below "") ∧
    LooksUp nested [] nested.entries.reverse ∧
    names nested.entries.reverse = ["login", "login.v2", "suite-a", "suite"] := by
  have tree : nested.IsTree := ⟨by decide, by decide⟩
  have walked : nested.entries.reverse.Perm (nested.below "") := List.reverse_perm _
  exact ⟨tree, walked, looksUp_of_tree tree (fun _ mem => absurd mem List.not_mem_nil) walked,
    by decide⟩

end Library

end Playback
