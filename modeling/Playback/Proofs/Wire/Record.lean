import Mathlib.Data.List.Forall2
import Playback.Wire.Decode

/-!
# Decoding what was encoded

The documents of values are sound, and a canonical value is decoded as itself. Of a record that was
written with some of its fields, in the order of their declaration, each slot holds the document of
the value that was written for it, if there was one.

* `Document.isSound_ofJson` — **the document of a value is sound**;
* `Wire.json_ofJson` — **canonical values are decoded as themselves**;
* `Wire.Field.Fits` — what was written for a field passes its check;
* `Wire.slots_objOf` — **the slots of a written record**.
-/

namespace Playback

/-! ## Sound documents -/

namespace Document

mutual

/-- **The document of a value is sound.** -/
theorem isSound_ofJson (v : Json) : (ofJson v).isSound = true := by
  cases v with
  | arr items => exact areSound_ofJsonItems items
  | obj fields => exact entriesSound_ofJsonFields fields
  | _ => rfl

/-- So are the documents of items. -/
theorem areSound_ofJsonItems (items : List Json) : areSound (ofJsonItems items) = true := by
  cases items with
  | nil => rfl
  | cons item items =>
    rw [ofJsonItems, areSound, isSound_ofJson item, areSound_ofJsonItems items]
    rfl

/-- And the documents of fields. -/
theorem entriesSound_ofJsonFields (fields : List (String × Json)) :
    entriesSound (ofJsonFields fields) = true := by
  cases fields with
  | nil => rfl
  | cons field fields =>
    obtain ⟨name, value⟩ := field
    rw [ofJsonFields, entriesSound, isSound_ofJson value, entriesSound_ofJsonFields fields]
    rfl

end

end Document

/-! ## Canonical values -/

namespace Json

/-- The fields of an object are canonical if each of them is. -/
theorem canonicalFields_iff {fields : List (String × Json)} :
    CanonicalFields fields ↔ ∀ f ∈ fields, f.2.Canonical := by
  induction fields with
  | nil => exact iff_of_true trivial fun f mem => nomatch mem
  | cons f fields ih =>
    rw [List.forall_mem_cons, ← ih]
    exact Iff.rfl

/-- So are the items of an array. -/
theorem canonicalItems_iff {items : List Json} :
    CanonicalItems items ↔ ∀ v ∈ items, v.Canonical := by
  induction items with
  | nil => exact iff_of_true trivial fun v mem => nomatch mem
  | cons v items ih =>
    rw [List.forall_mem_cons, ← ih]
    exact Iff.rfl

/-- A number is canonical if it is finite; another one is written as nothing. -/
theorem canonical_ofFloat (x : Binary64) : (ofFloat x).Canonical := by
  rw [ofFloat]
  split
  · exact ‹x.isFinite = true›
  · trivial

/-- An object is canonical if its names are sorted and its values canonical. -/
theorem canonical_obj {fields : List (String × Json)}
    (names : (fields.map (·.1)).Pairwise (· < ·)) (values : CanonicalFields fields) :
    (obj fields).Canonical :=
  ⟨List.pairwise_map.1 names, values⟩

end Json

namespace Wire

/-- What follows a decoded value goes on with it. -/
theorem ok_bind {α β : Type} (a : α) (f : α → Result β) :
    ((Except.ok a : Result α) >>= f) = f a := rfl

mutual

/-- **A canonical value is decoded as itself.** -/
theorem json_ofJson (v : Json) (canonical : v.Canonical) : json (Document.ofJson v) = .ok v := by
  cases v with
  | float x =>
    have finite : x.isFinite = true := canonical
    change Except.ok (Json.ofFloat x) = _
    rw [Json.ofFloat, if_pos finite]
  | arr items =>
    change (jsonItems (Document.ofJsonItems items) >>= fun vs => .ok (Json.arr vs)) = _
    rw [jsonItems_ofJson items canonical]
    rfl
  | obj fields =>
    obtain ⟨sorted, values⟩ := canonical
    change (jsonFields (Document.ofJsonFields fields) [] >>= fun fs => .ok (Json.obj fs)) = _
    rw [jsonFields_ofJson fields [] sorted values]
    rfl
  | _ => rfl

/-- The items of a canonical array are. -/
theorem jsonItems_ofJson (items : List Json) (canonical : Json.CanonicalItems items) :
    jsonItems (Document.ofJsonItems items) = .ok items := by
  cases items with
  | nil => rfl
  | cons item items =>
    rw [Document.ofJsonItems, jsonItems, json_ofJson item canonical.1,
      jsonItems_ofJson items canonical.2]
    rfl

/-- The fields of a canonical object are, behind those that come before them. -/
theorem jsonFields_ofJson (fields before : List (String × Json))
    (sorted : (before ++ fields).Pairwise fun a b => a.1 < b.1)
    (canonical : Json.CanonicalFields fields) :
    jsonFields (Document.ofJsonFields fields) before = .ok (before ++ fields) := by
  cases fields with
  | nil =>
    rw [List.append_nil]
    rfl
  | cons field fields =>
    obtain ⟨name, value⟩ := field
    -- in a sorted object each field comes behind all those before it
    have behind : ∀ x ∈ before, x.1 < (name, value).1 := fun x hx =>
      (List.pairwise_append.1 sorted).2.2 x hx _ List.mem_cons_self
    have last : Dict.insertEntry name value before = before ++ [(name, value)] :=
      Dict.insertEntry_append_of_lt behind
    rw [Document.ofJsonFields, jsonFields, json_ofJson value canonical.1]
    change jsonFields (Document.ofJsonFields fields) (Dict.insertEntry name value before) = _
    rw [last, jsonFields_ofJson fields (before ++ [(name, value)])
      (by rw [List.append_assoc]; exact sorted) canonical.2, List.append_assoc]
    rfl

end

/-! ## Records -/

/-- **What was written for a field fits it**: it is under the field's name, and its document, if
there is one, passes the check. -/
structure Field.Fits (f : Field) (written : String × Option Json) : Prop where
  name_eq : written.1 = f.name
  check_eq : ∀ v, written.2 = some v → f.check (Document.ofJson v) = .ok ()

/-- What a function decodes passes the check of its field. -/
theorem check_field {α : Type} {name : String} {decode : Document → Result α} {d : Document}
    {a : α} (h : decode d = .ok a) : (field name decode).check d = .ok () := by
  change (decode d).map (fun _ => ()) = _
  rw [h]
  rfl

/-- A field that is always written fits if it is decoded. -/
theorem fits_some {α : Type} (name : String) {decode : Document → Result α} {v : Json} {a : α}
    (h : decode (Document.ofJson v) = .ok a) : (field name decode).Fits (name, some v) where
  name_eq := rfl
  check_eq _ same := Option.some.inj same ▸ check_field h

/-- A field that may be left out fits if it is decoded where it is written. -/
theorem fits_optional {α : Type} (name : String) {decode : Document → Result α} {w : Option Json}
    (h : ∀ v, w = some v → ∃ a, decode (Document.ofJson v) = .ok a) :
    (field name decode).Fits (name, w) where
  name_eq := rfl
  check_eq v same := (h v same).elim fun _ decoded => check_field decoded

/-- A field is at its position if no other one has its name. -/
theorem position_field {before after : List Field} {f : Field}
    (nodup : ((before ++ f :: after).map Field.name).Nodup) :
    position (before ++ f :: after) (.str f.name) = .ok (some before.length) := by
  have first : ∀ g ∈ before, (g.name == f.name) = false := by
    intro g hg
    rw [List.map_append, List.map_cons, List.nodup_append] at nodup
    exact beq_false_of_ne (nodup.2.2 _ (List.mem_map_of_mem hg) _ List.mem_cons_self)
  have found : (before ++ f :: after).findIdx? (fun g => g.name == f.name) =
      some before.length := by
    rw [List.findIdx?_append, List.findIdx?_eq_none_iff.2 first, List.findIdx?_cons]
    simp
  rw [position, found]

/-- The fields that were written, behind those that were left out. -/
def given (written : List (String × Option Json)) : List (String × Json) :=
  written.filterMap fun w => w.2.map fun v => (w.1, v)

/-- **The slots of what was written**: the document of each value, where there is one. -/
def slotsOf (written : List (String × Option Json)) : Slots :=
  written.map fun w => w.2.map Document.ofJson

/-- **What was written fills the slots of its fields**, behind those that are filled. -/
theorem fillEntries_given {before after : List Field} {filled : Slots}
    {written : List (String × Option Json)} (fits : List.Forall₂ Field.Fits after written)
    (nodup : ((before ++ after).map Field.name).Nodup) (len : filled.length = before.length) :
    fillEntries (before ++ after) (Document.ofJsonFields (given written))
        (filled ++ after.map fun _ => none) =
      .ok (filled ++ slotsOf written) := by
  induction fits generalizing before filled with
  | nil => rfl
  | @cons f w after written fit _ ih =>
    obtain ⟨name, value⟩ := w
    obtain rfl : name = f.name := fit.name_eq
    have shifted : before ++ f :: after = (before ++ [f]) ++ after := by simp
    have longer : ∀ d, (filled ++ [d]).length = (before ++ [f]).length := by simp [len]
    have next : ∀ d, fillEntries (before ++ f :: after) (Document.ofJsonFields (given written))
        (filled ++ d :: after.map fun _ => none) =
          .ok (filled ++ d :: slotsOf written) := by
      intro d
      have := ih (shifted ▸ nodup) (longer d)
      rw [shifted]
      simpa using this
    cases value with
    | none => exact next none
    | some v =>
      have here : (before ++ f :: after)[before.length]? = some f := by simp
      have free : (filled ++ none :: after.map fun _ => (none : Option Document))[before.length]? =
          some none := by simp [← len]
      have put : (filled ++ none :: after.map fun _ => none).set before.length
          (some (Document.ofJson v)) = filled ++ some (Document.ofJson v) ::
            after.map fun _ => none := by simp [← len]
      change (position (before ++ f :: after) (.str f.name) >>= fun i => _) = _
      rw [position_field nodup, ok_bind]
      simp only [List.map_cons, free, here]
      change (f.check (Document.ofJson v) >>= fun _ => fillEntries _ _
        ((filled ++ none :: after.map fun _ => none).set before.length
          (some (Document.ofJson v)))) = _
      rw [fit.check_eq v rfl, put]
      exact next _

/-- **The slots of a written record** hold what was written for each field. -/
theorem slots_objOf {origin : Origin} {fields : List Field}
    {written : List (String × Option Json)} (fits : List.Forall₂ Field.Fits fields written)
    (nodup : (fields.map Field.name).Nodup) :
    slots origin fields (Document.ofJson (Json.objOf written)) = .ok (slotsOf written) :=
  @fillEntries_given [] fields [] written fits nodup rfl

end Wire

end Playback
