import Playback.Proofs.Wire.Message
import Playback.Proofs.Wire.Order
import Playback.Wire.Script

/-!
# Steps and scripts on the wire

What is written for a step or for a whole script is decoded as the step or the script again. The
waiting time of a step is free-form: it comes back if it is canonical and says something.

* `Selector.decode_encode`, `StepAttributes.decode_encode` — the parts of a step;
* `StepRecord.settled`, `StepRecord.decode_encode` — **a step is decoded as it comes back**;
* `Wire.listOf_ofJson`, `Wire.dictOf_ofDict` — lists and dictionaries;
* `TestScript.decode_written` — **a script is decoded with the steps that its items are decoded as**.
-/

namespace Playback

open Wire

/-! ## Lists and dictionaries -/

namespace Wire

variable {α : Type} {decode : Document → Result α}

/-- **A list is decoded item by item.** -/
theorem listOf_ofJson {items : List Json} {as : List α}
    (h : List.Forall₂ (fun v a => decode (Document.ofJson v) = .ok a) items as) :
    listOf decode (Document.ofJson (.arr items)) = .ok as := by
  change (Document.ofJsonItems items).mapM decode = _
  induction h with
  | nil => rfl
  | cons first _ ih =>
    rw [Document.ofJsonItems, List.mapM_cons, first, ok_bind, ih, ok_bind]
    rfl

/-- A written list is decoded as itself if its items are. -/
theorem listOf_map_ofJson {encode : α → Json} {as : List α}
    (h : ∀ a ∈ as, decode (Document.ofJson (encode a)) = .ok a) :
    listOf decode (Document.ofJson (.arr (as.map encode))) = .ok as :=
  listOf_ofJson (List.forall₂_map_left_iff.2 (List.forall₂_same.2 h))

/-- The entries of an object are assigned one after the other. -/
theorem dictEntries_ofJson {encode : α → Json} {entries : List (String × α)} {before : Dict α}
    (h : ∀ e ∈ entries, decode (Document.ofJson (encode e.2)) = .ok e.2) :
    dictEntries decode (Document.ofJsonFields (entries.map fun e => (e.1, encode e.2))) before =
      .ok (entries.foldl (fun d e => d.insert e.1 e.2) before) := by
  induction entries generalizing before with
  | nil => rfl
  | cons e entries ih =>
    obtain ⟨first, others⟩ := List.forall_mem_cons.1 h
    rw [List.map_cons, Document.ofJsonFields, dictEntries, first]
    exact ih others

/-- **A written dictionary is decoded as itself** if its values are. -/
theorem dictOf_ofDict {encode : α → Json} {d : Dict α}
    (h : ∀ e ∈ d.entries, decode (Document.ofJson (encode e.2)) = .ok e.2) :
    dictOf decode (Document.ofJson (Json.ofDict encode d)) = .ok d := by
  change dictEntries decode
    (Document.ofJsonFields (d.entries.map fun e => (e.1, encode e.2))) Dict.empty = _
  rw [dictEntries_ofJson h]
  exact congrArg Except.ok (Dict.ofList_entries d)

/-- An optional value that is always written comes back. -/
theorem optional_ofOption {encode : α → Json} {a? : Option α}
    (h : ∀ a, a? = some a → Document.ofJson (encode a) ≠ .null ∧
      decode (Document.ofJson (encode a)) = .ok a) :
    optional decode (Document.ofJson (Json.ofOption encode a?)) = .ok a? := by
  cases a? with
  | none => rfl
  | some a => exact optional_some (h a rfl).1 (h a rfl).2

/-- A field with a default is decoded from its slot if it was written. -/
theorem Slots.defaulted_eq {s : Slots} {i : Nat} {default : α} (v : Json)
    (slot : s[i]? = some (some (Document.ofJson v))) :
    s.defaulted i decode default = decode (Document.ofJson v) := by
  rw [Slots.defaulted, slot]

end Wire

/-! ## The parts of a step -/

/-- **A selector is decoded as itself**; it is written with its fields sorted. -/
theorem Selector.decode_encode (origin : Origin) (s : Selector) :
    decode origin (Document.ofJson s.encode) = .ok s := by
  have fits : List.Forall₂ Field.Fits fields
      [("type", some (.str s.type)), ("locator", some (.str s.locator))] :=
    .cons (fits_some _ rfl) <| .cons (fits_some _ rfl) .nil
  have nodup : (fields.map Field.name).Nodup := by
    change ["type", "locator"].Nodup
    decide
  have declared : decode origin (Document.ofJson (Json.objOf
      [("type", some (.str s.type)), ("locator", some (.str s.locator))])) = .ok s := by
    rw [decode, slots_objOf fits nodup, ok_bind]
    rfl
  exact unordered_decode origin _ _ s (.swap _ _ []) declared

/-- A selector is written canonically. -/
theorem Selector.canonical_encode (s : Selector) : s.encode.Canonical := by
  have names : ["locator", "type"].Pairwise (· < ·) := by decide
  exact Json.canonical_obj names ⟨trivial, trivial, trivial⟩

/-- Attributes are decoded as themselves. -/
theorem StepAttributes.decode_encode (origin : Origin) (a : StepAttributes) :
    decode origin (Document.ofJson a.encode) = .ok a := by
  have fits : List.Forall₂ Field.Fits fields [("value", a.value.map Json.str)] :=
    .cons (fits_optional_text _ _) .nil
  have nodup : (fields.map Field.name).Nodup := by
    change ["value"].Nodup
    decide
  rw [decode, encode, slots_objOf fits nodup, ok_bind, Slots.optional_text rfl, ok_bind]
  rfl

/-! ## Steps -/

namespace StepRecord

/-- **The waiting time of a step is canonical**, if it has one. -/
def IsCanonical (s : StepRecord) : Prop := ∀ v, s.value = some v → v.Canonical

/-- **The step as it comes back**: a waiting time that says nothing is none. -/
def settled (s : StepRecord) : StepRecord :=
  { s with value := s.value.filter fun v => !v.isNull }

/-- The fields of a step that it has, in the order of their declaration. -/
def encodeFields (s : StepRecord) : List (String × Option Json) := [
  ("indexStep", some (.int s.indexStep.toNat)),
  ("action", some (.str s.action)),
  ("selectors", some (.arr (s.selectors.map Selector.encode))),
  ("attributes", s.attributes.map StepAttributes.encode),
  ("typeAssert", s.typeAssert.map Json.str),
  ("valueToAssert", s.valueToAssert.map Json.str),
  ("value", s.value),
  ("url", s.url.map Json.str),
  ("description", s.description.map Json.str)]

/-- A step is written with these fields. -/
theorem encode_eq (s : StepRecord) : s.encode = Json.objOf s.encodeFields := rfl

/-- The selectors of a step are decoded as themselves. -/
theorem selectors_decode_encode (origin : Origin) (s : StepRecord) :
    listOf (Selector.decode origin)
      (Document.ofJson (.arr (s.selectors.map Selector.encode))) = .ok s.selectors :=
  listOf_map_ofJson fun c _ => c.decode_encode origin

/-- What is written for a step fits its fields. -/
theorem fits_encodeFields {s : StepRecord} (canonical : s.IsCanonical) (origin : Origin) :
    List.Forall₂ Field.Fits (fields origin) s.encodeFields := by
  refine .cons (fits_some _ (word32_toNat s.indexStep)) <| .cons (fits_some _ rfl) <|
    .cons (fits_some _ (s.selectors_decode_encode origin)) <| .cons ?_ <|
    .cons (fits_optional_text _ _) <| .cons (fits_optional_text _ _) <|
    .cons (fits_optional_json _ canonical) <| .cons (fits_optional_text _ _) <|
    .cons (fits_optional_text _ _) .nil
  refine fits_optional _ fun v written => ?_
  obtain ⟨a, -, rfl⟩ := Option.map_eq_some_iff.1 written
  exact ⟨some a, optional_some Document.noConfusion (a.decode_encode origin)⟩

/-- **A step with a canonical waiting time is decoded as it comes back.** -/
theorem decode_encode {s : StepRecord} (canonical : s.IsCanonical) (origin : Origin) :
    decode origin (Document.ofJson s.encode) = .ok s.settled := by
  have nodup : ((fields origin).map Field.name).Nodup := by
    change ["indexStep", "action", "selectors", "attributes", "typeAssert", "valueToAssert",
      "value", "url", "description"].Nodup
    decide
  have index : (slotsOf s.encodeFields).required 0 word32 = .ok s.indexStep :=
    (Slots.required_eq (.int s.indexStep.toNat) rfl).trans (word32_toNat s.indexStep)
  have action : (slotsOf s.encodeFields).required 1 text = .ok s.action :=
    Slots.required_eq (.str s.action) rfl
  have selectors : (slotsOf s.encodeFields).defaulted 2 (listOf (Selector.decode origin)) [] =
      .ok s.selectors :=
    (Slots.defaulted_eq (.arr (s.selectors.map Selector.encode)) rfl).trans
      (s.selectors_decode_encode origin)
  have attributes : (slotsOf s.encodeFields).optional 3 (StepAttributes.decode origin) =
      .ok s.attributes :=
    Slots.optional_eq rfl fun a _ => ⟨Document.noConfusion, a.decode_encode origin⟩
  have typeAssert : (slotsOf s.encodeFields).optional 4 text = .ok s.typeAssert :=
    Slots.optional_text rfl
  have valueToAssert : (slotsOf s.encodeFields).optional 5 text = .ok s.valueToAssert :=
    Slots.optional_text rfl
  have value : (slotsOf s.encodeFields).optional 6 json = .ok s.settled.value :=
    Slots.optional_json rfl canonical
  have url : (slotsOf s.encodeFields).optional 7 text = .ok s.url := Slots.optional_text rfl
  have description : (slotsOf s.encodeFields).optional 8 text = .ok s.description :=
    Slots.optional_text rfl
  rw [decode, encode_eq, slots_objOf (fits_encodeFields canonical origin) nodup, ok_bind, index,
    ok_bind, action, ok_bind, selectors, ok_bind, attributes, ok_bind, typeAssert, ok_bind,
    valueToAssert, ok_bind, value, ok_bind, url, ok_bind, description, ok_bind]
  rfl

end StepRecord

/-! ## Scripts -/

namespace TestScript

/-- **The waiting times in a script are canonical.** -/
def IsCanonical (t : TestScript) : Prop := ∀ s ∈ t.steps, s.IsCanonical

/-- **The script as it comes back**: so do its steps. -/
def settled (t : TestScript) : TestScript := { t with steps := t.steps.map StepRecord.settled }

/-- The fields of a script with some items in the place of its steps. -/
def encodeFields (t : TestScript) (items : List Json) : List (String × Option Json) := [
  ("name", some (.str t.name)),
  ("description", some (.str t.description)),
  ("startUrl", some (Json.ofOption Json.str t.startUrl)),
  ("steps", some (.arr items)),
  ("dataScenarios", some (Json.ofDict TestData.encode t.dataScenarios))]

/-- A script is written with its steps in their place. -/
theorem encode_eq (t : TestScript) :
    t.encode = Json.objOf (t.encodeFields (t.steps.map StepRecord.encode)) := rfl

/-- The page that a script starts from comes back, and its absence too. -/
theorem startUrl_decode (t : TestScript) :
    optional text (Document.ofJson (Json.ofOption Json.str t.startUrl)) = .ok t.startUrl :=
  optional_ofOption fun _ _ => ⟨Document.noConfusion, rfl⟩

/-- So do the scenarios of a script. -/
theorem dataScenarios_decode (origin : Origin) (t : TestScript) :
    dictOf (TestData.decode origin)
      (Document.ofJson (Json.ofDict TestData.encode t.dataScenarios)) = .ok t.dataScenarios :=
  dictOf_ofDict fun _ _ => dictOf_ofDict fun _ _ => rfl

/-- **A script is decoded with the steps that its items are decoded as.** -/
theorem decode_written {origin : Origin} {items : List Json} {steps : List StepRecord}
    (h : List.Forall₂ (fun v s => StepRecord.decode origin (Document.ofJson v) = .ok s) items steps)
    (t : TestScript) :
    decode origin (Document.ofJson (Json.objOf (t.encodeFields items))) =
      .ok { t with steps } := by
  have decoded : listOf (StepRecord.decode origin) (Document.ofJson (.arr items)) = .ok steps :=
    listOf_ofJson h
  have fits : List.Forall₂ Field.Fits (fields origin) (t.encodeFields items) :=
    .cons (fits_some _ rfl) <| .cons (fits_some _ rfl) <|
      .cons (fits_some _ t.startUrl_decode) <| .cons (fits_some _ decoded) <|
      .cons (fits_some _ (t.dataScenarios_decode origin)) .nil
  have nodup : ((fields origin).map Field.name).Nodup := by
    change ["name", "description", "startUrl", "steps", "dataScenarios"].Nodup
    decide
  have name : (slotsOf (t.encodeFields items)).defaulted 0 text "" = .ok t.name :=
    Slots.defaulted_eq (.str t.name) rfl
  have description : (slotsOf (t.encodeFields items)).defaulted 1 text "" = .ok t.description :=
    Slots.defaulted_eq (.str t.description) rfl
  have startUrl : (slotsOf (t.encodeFields items)).optional 2 text = .ok t.startUrl :=
    (Slots.optional_written (Json.ofOption Json.str t.startUrl) rfl).trans t.startUrl_decode
  have stepsBack : (slotsOf (t.encodeFields items)).required 3 (listOf (StepRecord.decode origin)) =
      .ok steps :=
    (Slots.required_eq (.arr items) rfl).trans decoded
  have dataScenarios : (slotsOf (t.encodeFields items)).defaulted 4
      (dictOf (TestData.decode origin)) Dict.empty = .ok t.dataScenarios :=
    (Slots.defaulted_eq (Json.ofDict TestData.encode t.dataScenarios) rfl).trans
      (t.dataScenarios_decode origin)
  rw [decode, slots_objOf fits nodup, ok_bind, name, ok_bind, description, ok_bind, startUrl,
    ok_bind, stepsBack, ok_bind, dataScenarios, ok_bind]
  rfl

end TestScript

end Playback
