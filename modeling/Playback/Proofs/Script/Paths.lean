import Mathlib.Data.List.Pairwise
import Mathlib.Data.List.TakeWhile
import Playback.Script.Library

/-!
# Names and paths of files

* `FilePath.splitName_eq_iff`, `FilePath.isScriptNamed_iff` — **stem and ending of a file's name**, and
  the paths of script files;
* `FilePath.written`, `Files.splitPath_written` — **a path written with its names between slashes**;
* `Files.IsTree`, `Files.IsTree.content_written`, `Files.IsTree.below_written` — **in a directory
  tree, each file is come by under its written path**, and is below the directories on it.
-/

namespace Playback

namespace FilePath

/-! ## Endings -/

/-- Characters are parted at their first dot. -/
theorem span_dot {before : List Char} (dotless : '.' ∉ before) (after : List Char) :
    (before ++ '.' :: after).takeWhile (· != '.') = before ∧
      (before ++ '.' :: after).dropWhile (· != '.') = '.' :: after := by
  have plain : ∀ c ∈ before, (c != '.') = true := fun c mem =>
    bne_iff_ne.2 fun dot => dotless (dot ▸ mem)
  constructor
  · rw [List.takeWhile_append_of_pos plain, List.takeWhile_cons_of_neg (by simp), List.append_nil]
  · rw [List.dropWhile_append_of_pos plain, List.dropWhile_cons_of_neg (by simp)]

/-- A name is a stem, a dot and an ending if it is so from its end. -/
theorem eq_append_dot_iff {name stem ending : String} : name = stem ++ "." ++ ending ↔
    name.toList.reverse = ending.toList.reverse ++ '.' :: stem.toList.reverse := by
  rw [← String.toList_inj, ← List.reverse_inj]
  simp

/-- **A file's name with an ending** is a stem, a dot, and the ending, in which there is no dot. -/
theorem splitName_eq_iff {name stem ending : String} : splitName name = (stem, some ending) ↔
    name = stem ++ "." ++ ending ∧ stem ≠ "" ∧ '.' ∉ ending.toList ∧ name ≠ ".." := by
  rw [eq_append_dot_iff]
  constructor
  · intro h
    have whole : name.toList.reverse = name.toList.reverse.takeWhile (· != '.') ++
        name.toList.reverse.dropWhile (· != '.') := List.takeWhile_append_dropWhile.symm
    unfold splitName at h
    dsimp only at h
    split at h
    · next c start dropped =>
      split at h
      · cases h
      · next dots =>
        obtain ⟨rfl, rest⟩ := Prod.mk.inj h
        obtain rfl := Option.some.inj rest
        refine ⟨?_, ?_, ?_, dots⟩
        · rw [dropped] at whole
          simpa using whole
        · simp [← String.toList_inj]
        · rw [String.toList_ofList, List.mem_reverse]
          intro dot
          simpa using List.mem_takeWhile_imp dot
    · cases h
  · -- the name is read from its end, where the ending is parted from the stem at the first dot
    rintro ⟨reversed, nonempty, dotless, dots⟩
    obtain ⟨taken, dropped⟩ := span_dot (List.mem_reverse.not.2 dotless) stem.toList.reverse
    obtain ⟨c, start, last⟩ : ∃ c start, stem.toList.reverse = c :: start := by
      refine List.exists_cons_of_ne_nil fun empty => nonempty ?_
      rwa [List.reverse_eq_nil_iff, String.toList_eq_nil_iff] at empty
    unfold splitName
    dsimp only
    rw [reversed, dropped, taken, last]
    change (if name = ".." then _ else _) = _
    rw [if_neg dots, ← last, List.reverse_reverse, List.reverse_reverse, String.ofList_toList,
      String.ofList_toList]

/-- **The path of a script file with a stem**: its last name is the stem, which is not empty, with one
of three endings. -/
def IsScriptNamed (p : FilePath) (stem : String) : Prop :=
  ∃ dirs ending, p = dirs ++ [stem ++ "." ++ ending] ∧ stem ≠ "" ∧
    ending ∈ ["json", "yaml", "yml"]

/-- Endings of script files have no dot, and are long enough for a name to be no way back. -/
theorem ending_of_mem {ending : String} (mem : ending ∈ ["json", "yaml", "yml"]) :
    '.' ∉ ending.toList ∧ 3 ≤ ending.length := by
  simp only [List.mem_cons, List.not_mem_nil, or_false] at mem
  rcases mem with rfl | rfl | rfl <;> decide

/-- **Script files are told by their names.** -/
theorem isScriptNamed_iff {p : FilePath} {stem : String} :
    p.IsScriptNamed stem ↔ Library.isScript p = true ∧ p.stem = stem := by
  have isScript_iff : Library.isScript p = true ↔
      ∃ ending, p.ending? = some ending ∧ ending ∈ ["json", "yaml", "yml"] := by
    rw [Library.isScript]
    cases p.ending? <;> simp [or_assoc]
  constructor
  · rintro ⟨dirs, ending, rfl, nonempty, mem⟩
    obtain ⟨dotless, long⟩ := ending_of_mem mem
    have named : splitName (stem ++ "." ++ ending) = (stem, some ending) := by
      refine splitName_eq_iff.2 ⟨rfl, nonempty, dotless, fun dots => ?_⟩
      have lengths := congrArg String.length dots
      rw [String.length_append, String.length_append] at lengths
      have short : "..".length = 2 := rfl
      omega
    refine ⟨isScript_iff.2 ⟨ending, ?_, mem⟩, ?_⟩
    · rw [ending?, List.getLast?_concat, Option.bind_some, named]
    · rw [FilePath.stem, List.getLast?_concat, Option.map_some, named]
      rfl
  · rintro ⟨script, rfl⟩
    obtain ⟨ending, found, mem⟩ := isScript_iff.1 script
    obtain ⟨name, last, found⟩ := Option.bind_eq_some_iff.1 found
    have split : splitName name = (p.stem, some ending) := by
      rw [FilePath.stem, last, Option.map_some, Option.getD_some, ← found]
    obtain ⟨eq, nonempty, -, -⟩ := splitName_eq_iff.1 split
    obtain ⟨dirs, whole⟩ := List.getLast?_eq_some_iff.1 last
    exact ⟨dirs, ending, eq ▸ whole, nonempty, mem⟩

/-- A path has one stem. -/
theorem IsScriptNamed.stem_eq {p : FilePath} {stem : String} (h : p.IsScriptNamed stem) :
    p.stem = stem :=
  (isScriptNamed_iff.1 h).2

/-! ## Written paths -/

/-- **A path as it is written**: its names with slashes between them. -/
def written (p : FilePath) : String := "/".intercalate p

/-- **The name of a file or of a directory**: it is not empty, leads elsewhere than to where it stands
or back, and has no slash in it. -/
structure IsFileName (name : String) : Prop where
  nonempty : name ≠ ""
  leaves : name ≠ "."
  proceeds : name ≠ ".."
  slashless : '/' ∉ name.toList

instance (name : String) : Decidable (IsFileName name) :=
  decidable_of_iff (name ≠ "" ∧ name ≠ "." ∧ name ≠ ".." ∧ '/' ∉ name.toList)
    ⟨fun ⟨nonempty, leaves, proceeds, slashless⟩ => ⟨nonempty, leaves, proceeds, slashless⟩,
      fun h => ⟨h.nonempty, h.leaves, h.proceeds, h.slashless⟩⟩

end FilePath

namespace Files

open FilePath

/-- Characters without a slash are one piece. -/
theorem pieces_of_slashless {cs : List Char} (slashless : '/' ∉ cs) :
    splitPath.pieces cs = [cs] := by
  induction cs with
  | nil => rfl
  | cons c cs ih =>
    obtain ⟨other, others⟩ := not_or.1 (List.mem_cons.not.1 slashless)
    rw [splitPath.pieces, if_neg (Ne.symm other), ih others]

/-- A piece ends with a slash. -/
theorem pieces_append {cs rest : List Char} (slashless : '/' ∉ cs) :
    splitPath.pieces (cs ++ '/' :: rest) = cs :: splitPath.pieces rest := by
  induction cs with
  | nil => rfl
  | cons c cs ih =>
    obtain ⟨other, others⟩ := not_or.1 (List.mem_cons.not.1 slashless)
    rw [List.cons_append, splitPath.pieces, if_neg (Ne.symm other), ih others]

/-- The pieces of a written path are its names. -/
theorem pieces_intercalate {names : List (List Char)} (some : names ≠ [])
    (slashless : ∀ name ∈ names, '/' ∉ name) :
    splitPath.pieces (['/'].intercalate names) = names := by
  induction names with
  | nil => exact absurd rfl some
  | cons name names ih =>
    obtain ⟨first, others⟩ := List.forall_mem_cons.1 slashless
    cases names with
    | nil =>
      rw [List.intercalate_singleton, pieces_of_slashless first]
    | cons next names =>
      rw [List.intercalate_cons_cons, List.append_assoc, List.singleton_append, pieces_append first,
        ih (List.cons_ne_nil _ _) others]

/-- **A written path is read as its names**, and insists on nothing. -/
theorem splitPath_written {p : FilePath} (some : p ≠ []) (names : ∀ name ∈ p, IsFileName name) :
    splitPath p.written = (p, false) := by
  have chars : p.written.toList = ['/'].intercalate (p.map String.toList) :=
    String.toList_intercalate
  have pieces : (splitPath.pieces p.written.toList).map String.ofList = p := by
    rw [chars, pieces_intercalate (by simpa using some), List.map_map]
    · simp
    · intro name mem
      obtain ⟨n, inside, rfl⟩ := List.mem_map.1 mem
      exact (names n inside).slashless
  have kept : (p.filter fun n => n ≠ "" ∧ n ≠ ".") = p :=
    List.filter_eq_self.2 fun n mem =>
      decide_eq_true ⟨(names n mem).nonempty, (names n mem).leaves⟩
  have last : p.getLast? = Option.some (p.getLast some) := List.getLast?_eq_some_getLast some
  have name := names _ (List.getLast_mem some)
  unfold splitPath
  dsimp only
  rw [pieces, kept, last, Option.getD_some]
  simp [name.nonempty, name.leaves]

/-! ## Directory trees -/

/-- **A directory tree**: files with proper names, each once, and none of them is a directory of
another. -/
structure IsTree (fs : Files) : Prop where
  names : ∀ e ∈ fs.entries, e.1 ≠ [] ∧ ∀ name ∈ e.1, IsFileName name
  apart : fs.entries.Pairwise fun e f => ¬ e.1 <+: f.1 ∧ ¬ f.1 <+: e.1

variable {fs : Files} {p q : FilePath} {content : FileContent}

/-- A path that leads to a file, and not beyond, is that of the file. -/
theorem IsTree.eq_of_prefix (tree : fs.IsTree) {e f : FilePath × FileContent} (he : e ∈ fs.entries)
    (hf : f ∈ fs.entries) (below : e.1 <+: f.1) : e = f := by
  by_contra distinct
  have : Std.Symm fun e f : FilePath × FileContent => ¬ e.1 <+: f.1 ∧ ¬ f.1 <+: e.1 :=
    ⟨fun _ _ h => h.symm⟩
  exact (tree.apart.forall he hf distinct).1 below

/-- No path is that of two files. -/
theorem IsTree.nodup (tree : fs.IsTree) : (fs.entries.map (·.1)).Nodup :=
  List.pairwise_map.2 <| tree.apart.imp fun {e f} apart (same : e.1 = f.1) =>
    apart.1 (same ▸ List.prefix_refl e.1)

/-- What a file holds is found by its path. -/
theorem IsTree.content?_eq (tree : fs.IsTree) (mem : (p, content) ∈ fs.entries) :
    fs.content? p = some content := by
  have found : fs.entries.find? (fun e => e.1 == p) = some (p, content) := by
    cases eq : fs.entries.find? fun e => e.1 == p with
    | none => simpa using List.find?_eq_none.1 eq _ mem
    | some e =>
      have same : e.1 = p := by simpa using List.find?_some eq
      rw [tree.eq_of_prefix (List.mem_of_find?_eq_some eq) mem (same ▸ List.prefix_refl _)]
  rw [content?, found, Option.map_some]

/-- What leads further on to a file is a directory, -/
theorem isDirectory_of_mem {rest : FilePath} (mem : (p ++ rest, content) ∈ fs.entries)
    (further : rest ≠ []) : fs.isDirectory p = true := by
  rw [isDirectory, Bool.or_eq_true, List.any_eq_true]
  refine .inr ⟨_, mem, ?_⟩
  have pos := List.length_pos_iff.2 further
  simp [List.isPrefixOf_iff_prefix, pos]

/-- and a file is none. -/
theorem IsTree.isDirectory_eq_false (tree : fs.IsTree) (mem : (p, content) ∈ fs.entries) :
    fs.isDirectory p = false := by
  have nonempty : p.isEmpty = false := List.isEmpty_eq_false_iff.2 (tree.names _ mem).1
  rw [isDirectory, nonempty, Bool.false_or, List.any_eq_false]
  intro e he inside
  rw [Bool.and_eq_true, List.isPrefixOf_iff_prefix, decide_eq_true_eq] at inside
  obtain rfl := tree.eq_of_prefix mem he inside.1
  exact lt_irrefl _ inside.2

/-- **Names on the way to a file lead on.** -/
theorem IsTree.resolve_eq (tree : fs.IsTree) {done names rest : FilePath}
    (mem : (done ++ names ++ rest, content) ∈ fs.entries) :
    fs.resolve names done = .ok (done ++ names) := by
  induction names generalizing done with
  | nil =>
    rw [List.append_nil]
    rfl
  | cons name names ih =>
    have onward : name ≠ ".." := (tree.names _ mem).2 name (by simp) |>.proceeds
    have shifted : done ++ name :: names = (done ++ [name]) ++ names := by simp
    rw [shifted] at mem ⊢
    rw [resolve, if_neg onward]
    by_cases last : names ++ rest = []
    · obtain ⟨rfl, rfl⟩ := List.append_eq_nil_iff.1 last
      rw [List.append_nil] at mem ⊢
      rw [List.append_nil] at mem
      rw [tree.isDirectory_eq_false mem, tree.content?_eq mem]
      rfl
    · have further := mem
      rw [List.append_assoc] at further
      rw [if_pos (isDirectory_of_mem further last), ih mem]

/-- Where names lead is told by them, if none leads back. -/
theorem eq_of_resolve {done names : FilePath} (onward : ∀ name ∈ names, name ≠ "..")
    (h : fs.resolve names done = .ok q) : q = done ++ names := by
  induction names generalizing done with
  | nil =>
    obtain rfl := Except.ok.inj h
    rw [List.append_nil]
  | cons name names ih =>
    obtain ⟨first, others⟩ := List.forall_mem_cons.1 onward
    rw [resolve, if_neg first] at h
    split at h
    · rw [ih others h, List.append_assoc, List.singleton_append]
    · split at h
      · split at h
        · next last =>
          obtain rfl := List.isEmpty_iff.1 last
          exact (Except.ok.inj h).symm
        · cases h
      · cases h

/-- **In a directory tree, each file is come by under its written path.** -/
theorem IsTree.content_written (tree : fs.IsTree) (mem : (p, content) ∈ fs.entries) :
    fs.content p.written = .ok content := by
  obtain ⟨nonempty, names⟩ := tree.names _ mem
  have resolved := @IsTree.resolve_eq fs content tree [] p [] (by simpa using mem)
  rw [List.nil_append] at resolved
  simp [Files.content, splitPath_written nonempty names, resolved, tree.content?_eq mem, bind, Except.bind]

/-- **The files below a directory** are those whose paths lead through it. -/
theorem IsTree.below_written (tree : fs.IsTree) (names : ∀ name ∈ p, IsFileName name) :
    fs.below p.written = fs.entries.filter fun e => p.isPrefixOf e.1 := by
  obtain ⟨insists, split, open_⟩ :
      ∃ insists, splitPath p.written = (p, insists) ∧ (insists && !p.isEmpty) = false := by
    by_cases some : p = []
    · subst some
      exact ⟨true, rfl, rfl⟩
    · exact ⟨false, splitPath_written some names, rfl⟩
  simp only [below, split]
  cases resolved : fs.resolve p [] with
  | ok q =>
    obtain rfl : q = p := eq_of_resolve (fun name mem => (names name mem).proceeds) resolved
    simp [open_]
  | error e =>
    symm
    refine List.filter_eq_nil_iff.2 fun f mem leads => ?_
    obtain ⟨rest, whole⟩ := List.isPrefixOf_iff_prefix.1 leads
    have there := @IsTree.resolve_eq fs f.2 tree [] p rest (by rwa [List.nil_append, whole])
    cases resolved.symm.trans there

end Files

end Playback
