import Playback.Proofs.Wire.Step

/-!
# What is decoded

Records that were decoded are as the wire has them: their free-form values are canonical and their
counts fit. A free-form value that says nothing is not decoded as one, if the document is that of a
JSON value.

* `Wire.canonical_of_json` — **any JSON value is decoded in canonical form**;
* `Document.parts`, `Document.HasValues` — the documents in a document, and documents in which they
  are those of canonical values;
* `Wire.mem_parts_of_slots` — the slots of a record hold parts of its document;
* `StepRecord.isCanonical_of_decode` to `TestScript.isCanonical_of_decode`, and
  `StepRecord.settled_of_decode` to `TestScript.settled_of_decode` — **what holds of decoded
  records**.
-/

namespace Playback

namespace Wire

/-! ## Canonical values -/

mutual

/-- **Any JSON value is decoded in canonical form.** -/
theorem canonical_of_json (d : Document) {v : Json} (h : json d = .ok v) : v.Canonical := by
  cases d with
  | null =>
    obtain rfl := Except.ok.inj h
    trivial
  | bool b =>
    obtain rfl := Except.ok.inj h
    trivial
  | int n =>
    obtain rfl := Except.ok.inj h
    trivial
  | str s =>
    obtain rfl := Except.ok.inj h
    trivial
  | float x =>
    obtain rfl := Except.ok.inj h
    exact Json.canonical_ofFloat x
  | list items =>
    obtain ⟨vs, decoded, same⟩ := bind_eq_ok.1 h
    obtain rfl := Except.ok.inj same
    exact canonical_of_jsonItems items decoded
  | map entries =>
    obtain ⟨fields, decoded, same⟩ := bind_eq_ok.1 h
    obtain rfl := Except.ok.inj same
    exact canonical_of_jsonFields entries .nil trivial decoded
  | damaged => exact nomatch h
  | unreadable => exact nomatch h

/-- So are the items of an array. -/
theorem canonical_of_jsonItems (items : List Document) {vs : List Json}
    (h : jsonItems items = .ok vs) : Json.CanonicalItems vs := by
  cases items with
  | nil =>
    obtain rfl := Except.ok.inj h
    trivial
  | cons item items =>
    obtain ⟨v, first, h⟩ := bind_eq_ok.1 h
    obtain ⟨vs, others, same⟩ := bind_eq_ok.1 h
    obtain rfl := Except.ok.inj same
    exact ⟨canonical_of_json item first, canonical_of_jsonItems items others⟩

/-- And the fields of an object, put in their places among others. -/
theorem canonical_of_jsonFields (entries : List (Document × Document))
    {before fields : List (String × Json)}
    (sorted : before.Pairwise fun a b => a.1 < b.1) (canonical : Json.CanonicalFields before)
    (h : jsonFields entries before = .ok fields) :
    (fields.Pairwise fun a b => a.1 < b.1) ∧ Json.CanonicalFields fields := by
  cases entries with
  | nil =>
    obtain rfl := Except.ok.inj h
    exact ⟨sorted, canonical⟩
  | cons entry entries =>
    obtain ⟨key, value⟩ := entry
    obtain ⟨name, -, h⟩ := bind_eq_ok.1 h
    obtain ⟨v, decoded, h⟩ := bind_eq_ok.1 h
    refine canonical_of_jsonFields entries (Dict.sorted_insertEntry name v sorted) ?_ h
    rw [Json.canonicalFields_iff] at canonical ⊢
    intro f mem
    rcases Dict.mem_insertEntry mem with rfl | mem
    · exact canonical_of_json value decoded
    · exact canonical f mem

end

end Wire

/-! ## Parts of documents -/

namespace Document

/-- **The documents in a document**: the items of a list, or the values of a mapping. -/
def parts : Document → List Document
  | list items => items
  | map entries => entries.map (·.2)
  | null | bool _ | int _ | float _ | str _ | damaged | unreadable => []

/-- **The document of a canonical value.** -/
def IsValue (d : Document) : Prop := ∃ v : Json, v.Canonical ∧ d = ofJson v

/-- **The parts of a document are those of canonical values.** -/
def HasValues (d : Document) : Prop := ∀ part ∈ d.parts, part.IsValue

/-- The document of an array lists its items. -/
theorem ofJsonItems_eq_map (items : List Json) : ofJsonItems items = items.map ofJson := by
  induction items with
  | nil => rfl
  | cons item items ih => rw [ofJsonItems, ih, List.map_cons]

/-- **The parts of the document of a canonical value are such documents.** -/
theorem IsValue.hasValues {d : Document} (h : d.IsValue) : d.HasValues := by
  obtain ⟨v, canonical, rfl⟩ := h
  cases v with
  | arr items =>
    intro part mem
    change part ∈ ofJsonItems items at mem
    rw [ofJsonItems_eq_map, List.mem_map] at mem
    obtain ⟨item, inside, rfl⟩ := mem
    exact ⟨item, Json.canonicalItems_iff.1 canonical item inside, rfl⟩
  | obj fields =>
    intro part mem
    change part ∈ (ofJsonFields fields).map (·.2) at mem
    rw [Wire.ofJsonFields_eq_map, List.map_map, List.mem_map] at mem
    obtain ⟨field, inside, rfl⟩ := mem
    exact ⟨field.2, Json.canonicalFields_iff.1 canonical.2 field inside, rfl⟩
  | null | bool | int | float | str => exact fun part mem => nomatch mem

end Document

namespace Wire

variable {origin : Origin} {fields : List Field} {d : Document} {s filled : Slots}

/-- What one entry leaves in the slots was there, or is its value. -/
theorem Fills.mem {entry : Document × Document} {part : Document}
    (h : Fills fields entry s filled) (mem : some part ∈ filled) :
    some part ∈ s ∨ part = entry.2 := by
  cases h with
  | skipped unknown whole => exact .inl mem
  | filled known empty field_eq checked =>
    rcases List.mem_or_eq_of_mem_set mem with before | same
    · exact .inl before
    · exact .inr (Option.some.inj same)

/-- What entries leave in the slots was there, or is a value of one of them. -/
theorem mem_of_fillEntries {entries : List (Document × Document)} {part : Document}
    (h : fillEntries fields entries s = .ok filled) (mem : some part ∈ filled) :
    some part ∈ s ∨ part ∈ entries.map (·.2) := by
  induction entries generalizing s with
  | nil =>
    obtain rfl := Except.ok.inj h
    exact .inl mem
  | cons entry entries ih =>
    obtain ⟨s', fills, rest⟩ := fillEntries_cons.1 h
    rcases ih rest with before | later
    · rcases fills.mem before with before | rfl
      · exact .inl before
      · exact .inr List.mem_cons_self
    · exact .inr (List.mem_cons_of_mem _ later)

/-- Items beyond the last field are passed over in a configuration table, and only there. -/
theorem fillItems_nil_cons {item : Document} {items : List Document} :
    fillItems origin [] (item :: items) = .ok filled ↔ origin = .table ∧ filled = [] := by
  cases origin with
  | table =>
    rw [fillItems, Except.ok.injEq]
    exact ⟨fun same => ⟨rfl, same.symm⟩, fun h => h.2.symm⟩
  | text | buffered | value => simp [fillItems]

/-- What items leave in the slots is one of them. -/
theorem mem_of_fillItems {items : List Document} {part : Document}
    (h : fillItems origin fields items = .ok filled) (mem : some part ∈ filled) :
    part ∈ items := by
  induction items generalizing fields filled with
  | nil =>
    obtain rfl := Except.ok.inj (fillItems.eq_1 origin fields ▸ h)
    simp at mem
  | cons item items ih =>
    cases fields with
    | nil =>
      obtain ⟨-, rfl⟩ := fillItems_nil_cons.1 h
      exact absurd mem List.not_mem_nil
    | cons f fields =>
      obtain ⟨_, -, h⟩ := bind_eq_ok.1 h
      obtain ⟨rest, others, same⟩ := bind_eq_ok.1 h
      obtain rfl := Except.ok.inj same
      rcases List.mem_cons.1 mem with first | later
      · exact Option.some.inj first ▸ List.mem_cons_self
      · exact List.mem_cons_of_mem item (ih others later)

/-- **The slots of a record hold parts of its document.** -/
theorem mem_parts_of_slots {part : Document} (h : slots origin fields d = .ok s)
    (mem : some part ∈ s) : part ∈ d.parts := by
  cases d with
  | map entries =>
    rcases mem_of_fillEntries h mem with before | later
    · simp at before
    · exact later
  | list items => exact mem_of_fillItems h mem
  | null | bool | int | float | str | damaged | unreadable => exact nomatch h

/-! ## Fields -/

/-- A required field was decoded from a part of the document. -/
theorem exists_of_required {α : Type} {i : Nat} {decode : Document → Result α} {a : α}
    (h : s.required i decode = .ok a) : ∃ part, some part ∈ s ∧ decode part = .ok a := by
  rw [Slots.required] at h
  split at h
  · next part slot => exact ⟨part, List.mem_of_getElem? slot, h⟩
  · cases h

/-- An optional field is absent, or was decoded from a part of the document. -/
theorem exists_of_optional {α : Type} {i : Nat} {decode : Document → Result α} {a : α}
    (h : s.optional i decode = .ok (some a)) :
    ∃ part, some part ∈ s ∧ part ≠ .null ∧ decode part = .ok a := by
  rw [Slots.optional, Slots.defaulted] at h
  split at h
  · next part slot =>
    refine ⟨part, List.mem_of_getElem? slot, ?_⟩
    unfold Wire.optional at h
    split at h
    · cases h
    · next present =>
      refine ⟨present, ?_⟩
      cases decoded : decode part with
      | error e =>
        rw [decoded] at h
        cases h
      | ok b =>
        rw [decoded] at h
        exact congrArg Except.ok (Option.some.inj (Except.ok.inj h))
  · cases h

/-- **An optional free-form value is decoded in canonical form.** -/
theorem canonical_of_optional {i : Nat} {v? : Option Json} (h : s.optional i json = .ok v?) :
    ∀ v, v? = some v → v.Canonical := by
  rintro v rfl
  obtain ⟨part, -, -, decoded⟩ := exists_of_optional h
  exact canonical_of_json part decoded

/-- **It says something**, if the document has values for parts. -/
theorem settled_of_optional {i : Nat} {v? : Option Json} (values : d.HasValues)
    (filled : slots origin fields d = .ok s) (h : s.optional i json = .ok v?) :
    (v?.filter fun v => !v.isNull) = v? := by
  cases v? with
  | none => rfl
  | some v =>
    obtain ⟨part, mem, present, decoded⟩ := exists_of_optional h
    obtain ⟨w, canonical, rfl⟩ := values part (mem_parts_of_slots filled mem)
    -- a canonical value is decoded as itself, so it is nothing only as the document of nothing
    obtain rfl : w = v := Except.ok.inj ((json_ofJson w canonical).symm.trans decoded)
    have ne : w ≠ .null := by
      rintro rfl
      exact present rfl
    simp [Json.isNull_eq_false ne]

/-- A number of 64 bits fits. -/
theorem fitsWord_of_word64 {i n : Nat} (h : s.required i word64 = .ok n) : Json.FitsWord n := by
  obtain ⟨part, -, decoded⟩ := exists_of_required h
  rw [word64] at decoded
  cases part with
  | int m =>
    rw [natBelow] at decoded
    split at decoded
    · next bounds =>
      obtain rfl := Except.ok.inj decoded
      have low : -((Nat.pow 2 63 : Nat) : Int) ≤ 0 := by decide
      rw [Json.FitsWord, Int.toNat_of_nonneg bounds.1]
      exact ⟨Int.le_trans low bounds.1, bounds.2⟩
    · cases decoded
  | null | bool | float | str | list | map | damaged | unreadable => cases decoded

/-- The items of a list that was decoded were decoded. -/
theorem exists_of_mapM {α : Type} {decode : Document → Result α} {items : List Document}
    {as : List α} (h : items.mapM decode = .ok as) {a : α} (mem : a ∈ as) :
    ∃ item ∈ items, decode item = .ok a := by
  induction items generalizing as with
  | nil =>
    obtain rfl := Except.ok.inj h
    exact nomatch mem
  | cons item items ih =>
    rw [List.mapM_cons] at h
    obtain ⟨b, first, h⟩ := bind_eq_ok.1 h
    obtain ⟨bs, others, same⟩ := bind_eq_ok.1 h
    obtain rfl := Except.ok.inj same
    rcases List.mem_cons.1 mem with rfl | mem
    · exact ⟨item, List.mem_cons_self, first⟩
    · obtain ⟨item', mem', decoded⟩ := ih others mem
      exact ⟨item', List.mem_cons_of_mem item mem', decoded⟩

/-- **What is in a list was decoded from a part of its document.** -/
theorem exists_of_listOf {α : Type} {decode : Document → Result α} {as : List α}
    (h : listOf decode d = .ok as) {a : α} (mem : a ∈ as) :
    ∃ part ∈ d.parts, decode part = .ok a := by
  cases d with
  | list items => exact exists_of_mapM h mem
  | null | bool | int | float | str | map | damaged | unreadable => exact nomatch h

end Wire

/-! ## Records -/

open Wire

namespace StepRecord

variable {origin : Origin} {d : Document} {s : StepRecord}

/-- The waiting time of a decoded step stood in a slot of its own. -/
theorem slot_of_decode (h : decode origin d = .ok s) :
    ∃ filled, slots origin (fields origin) d = .ok filled ∧
      filled.optional 6 json = .ok s.value := by
  obtain ⟨filled, slots_eq, h⟩ := bind_eq_ok.1 h
  simp only [bind_eq_ok] at h
  obtain ⟨_, -, _, -, _, -, _, -, _, -, _, -, value, value_eq, _, -, _, -, same⟩ := h
  obtain rfl := Except.ok.inj same
  exact ⟨filled, slots_eq, value_eq⟩

/-- **The waiting time of a decoded step is canonical.** -/
theorem isCanonical_of_decode (h : decode origin d = .ok s) : s.IsCanonical := by
  obtain ⟨filled, -, value_eq⟩ := slot_of_decode h
  exact canonical_of_optional value_eq

/-- **It says something**, if there is one. -/
theorem settled_of_decode (values : d.HasValues) (h : decode origin d = .ok s) :
    s.settled = s := by
  obtain ⟨filled, slots_eq, value_eq⟩ := slot_of_decode h
  rw [settled, settled_of_optional values slots_eq value_eq]

end StepRecord

namespace ProgressEvent

variable {origin : Origin} {d : Document} {e : ProgressEvent}

/-- The details of a decoded event stood in a slot of their own. -/
theorem slot_of_decode (h : decode origin d = .ok e) :
    ∃ filled, slots origin (fields origin) d = .ok filled ∧
      filled.optional 6 json = .ok e.metadata := by
  obtain ⟨filled, slots_eq, h⟩ := bind_eq_ok.1 h
  simp only [bind_eq_ok] at h
  obtain ⟨_, -, _, -, _, -, _, -, _, -, _, -, details, details_eq, same⟩ := h
  obtain rfl := Except.ok.inj same
  exact ⟨filled, slots_eq, details_eq⟩

/-- **The details of a decoded event are canonical.** -/
theorem isCanonical_of_decode (h : decode origin d = .ok e) : e.IsCanonical := by
  obtain ⟨filled, -, details_eq⟩ := slot_of_decode h
  exact canonical_of_optional details_eq

/-- **They say something**, if there are any. -/
theorem settled_of_decode (values : d.HasValues) (h : decode origin d = .ok e) :
    e.settled = e := by
  obtain ⟨filled, slots_eq, details_eq⟩ := slot_of_decode h
  rw [settled, settled_of_optional values slots_eq details_eq]

end ProgressEvent

/-- **The counts of a decoded summary fit.** -/
theorem RunSummary.fitsWords_of_decode {origin : Origin} {d : Document} {r : RunSummary}
    (h : decode origin d = .ok r) : r.FitsWords := by
  obtain ⟨filled, -, h⟩ := bind_eq_ok.1 h
  simp only [bind_eq_ok] at h
  obtain ⟨_, -, _, -, _, -, _, total, _, completed, _, failed, _, skipped, _, duration, _, -,
    same⟩ := h
  obtain rfl := Except.ok.inj same
  exact ⟨fitsWord_of_word64 total, fitsWord_of_word64 completed, fitsWord_of_word64 failed,
    fitsWord_of_word64 skipped, fitsWord_of_word64 duration⟩

namespace StreamMessage

variable {origin : Origin} {d : Document} {m : StreamMessage}

/-- What is decoded as the body of a message is as the wire has it. -/
theorem of_decodeBody {kind : Kind} (h : decodeBody origin kind d = .ok m) :
    m.FitsWire ∧ (d.HasValues → m.settled = m) := by
  cases kind with
  | session =>
    obtain ⟨filled, -, h⟩ := bind_eq_ok.1 h
    simp only [bind_eq_ok] at h
    obtain ⟨id, -, testCase, -, same⟩ := h
    obtain rfl := Except.ok.inj same
    exact ⟨trivial, fun _ => rfl⟩
  | progress =>
    obtain ⟨e, decoded, same⟩ := bind_eq_ok.1 h
    obtain rfl := Except.ok.inj same
    exact ⟨ProgressEvent.isCanonical_of_decode decoded,
      fun values => congrArg progress (ProgressEvent.settled_of_decode values decoded)⟩
  | summary =>
    obtain ⟨r, decoded, same⟩ := bind_eq_ok.1 h
    obtain rfl := Except.ok.inj same
    exact ⟨RunSummary.fitsWords_of_decode decoded, fun _ => rfl⟩

/-- What is put aside when a message is split is some of its entries. -/
theorem sublist_of_splitEntries {entries rest : List (Document × Document)}
    {before after : Option Kind} (h : splitEntries entries before = .ok (after, rest)) :
    rest.Sublist entries := by
  induction entries generalizing before rest with
  | nil =>
    obtain ⟨-, rfl⟩ := Prod.mk.inj (Except.ok.inj h)
    exact .slnil
  | cons entry entries ih =>
    obtain ⟨between, kept, later, splits, split, rfl⟩ := splitEntries_cons.1 h
    cases splits with
    | told tag named => exact (ih split).cons entry
    | aside named other sound => exact (ih split).cons_cons entry

/-- **A decoded message was decoded from a body among its parts.** -/
theorem exists_of_decode (h : decode origin d = .ok m) :
    ∃ kind body, decodeBody .buffered kind body = .ok m ∧ ∀ part ∈ body.parts, part ∈ d.parts := by
  cases d with
  | map entries =>
    obtain ⟨⟨kind, rest⟩, split, h⟩ := bind_eq_ok.1 h
    cases kind with
    | none => exact nomatch h
    | some kind =>
      have sublist := (sublist_of_splitEntries split).map (·.2)
      exact ⟨kind, .map rest, h, fun part mem => sublist.subset mem⟩
  | list items =>
    cases items with
    | nil => exact nomatch h
    | cons tag rest =>
      obtain ⟨kind, -, h⟩ := bind_eq_ok.1 h
      split at h
      · exact ⟨kind, .list rest, h, fun part mem => List.mem_cons_of_mem tag mem⟩
      · exact nomatch h
  | null | bool | int | float | str | damaged | unreadable => exact nomatch h

/-- **A decoded message is as the wire has it.** -/
theorem fitsWire_of_decode (h : decode origin d = .ok m) : m.FitsWire := by
  obtain ⟨kind, body, decoded, -⟩ := exists_of_decode h
  exact (of_decodeBody decoded).1

/-- **Its details say something**, if it has any. -/
theorem settled_of_decode (values : d.HasValues) (h : decode origin d = .ok m) :
    m.settled = m := by
  obtain ⟨kind, body, decoded, parts⟩ := exists_of_decode h
  exact (of_decodeBody decoded).2 fun part mem => values part (parts part mem)

end StreamMessage

namespace TestScript

variable {origin : Origin} {d : Document} {t : TestScript}

/-- The steps of a decoded script were decoded from one of its parts. -/
theorem exists_of_decode (h : decode origin d = .ok t) :
    ∃ part ∈ d.parts, listOf (StepRecord.decode origin) part = .ok t.steps := by
  obtain ⟨filled, slots_eq, h⟩ := bind_eq_ok.1 h
  simp only [bind_eq_ok] at h
  obtain ⟨_, -, _, -, _, -, steps, steps_eq, _, -, same⟩ := h
  obtain rfl := Except.ok.inj same
  obtain ⟨part, mem, decoded⟩ := exists_of_required steps_eq
  exact ⟨part, mem_parts_of_slots slots_eq mem, decoded⟩

/-- **The waiting times in a decoded script are canonical.** -/
theorem isCanonical_of_decode (h : decode origin d = .ok t) : t.IsCanonical := by
  obtain ⟨part, -, decoded⟩ := exists_of_decode h
  intro s mem
  obtain ⟨item, -, decoded⟩ := exists_of_listOf decoded mem
  exact StepRecord.isCanonical_of_decode decoded

/-- **They say something**, where there are any. -/
theorem settled_of_decode (values : d.HasValues) (h : decode origin d = .ok t) :
    t.settled = t := by
  obtain ⟨part, mem, decoded⟩ := exists_of_decode h
  have steps : ∀ s ∈ t.steps, s.settled = s := by
    intro s mem'
    obtain ⟨item, inside, decoded⟩ := exists_of_listOf decoded mem'
    have value : item.IsValue := (values part mem).hasValues item inside
    exact StepRecord.settled_of_decode value.hasValues decoded
  rw [settled, List.map_congr_left steps, List.map_id']

end TestScript

end Playback
