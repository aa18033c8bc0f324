import Mathlib.Data.List.ReduceOption
import Playback.Placeholder

/-!
# What substitution depends on

A text is substituted alike by all data that agree on the names of its tokens, and so is a step.

* `TestData.AgreeOn` — **two sets of test data agree** on some names;
* `substitute_congr` — the same of one text;
* `substitute_eq_self` — a text whose tokens have no value stays as it is;
* `StepRecord.texts`, `StepRecord.replaceTexts` — the texts of a step that may hold tokens, and the
  step with another text in place of each; `StepRecord.substitute_eq` says that substitution is of
  that kind, the shortcut without any data included;
* `StepRecord.substitute_congr` — **a step is substituted alike** by data that agree on its
  placeholders.
-/

namespace Playback

/-- **Two sets of test data agree** on some names: each name has the same value in both, or in
neither. -/
def TestData.AgreeOn (names : List String) (data data' : TestData) : Prop :=
  ∀ name ∈ names, data.get? name = data'.get? name

instance (names : List String) (data data' : TestData) :
    Decidable (TestData.AgreeOn names data data') :=
  inferInstanceAs (Decidable (∀ name ∈ names, data.get? name = data'.get? name))

/-! ## Texts -/

/-- A piece is replaced alike by data that agree on its name. -/
theorem Piece.replaced_congr {data data' : TestData} {p : Piece}
    (h : ∀ name, p.tokenName? = some name → data.get? name = data'.get? name) :
    p.replaced data = p.replaced data' := by
  cases p with
  | plain c => rfl
  | token name => rw [replaced, replaced, h _ rfl]

/-- **A text is substituted alike** by data that agree on its placeholders. -/
theorem substitute_congr {data data' : TestData} {text : String}
    (h : TestData.AgreeOn (placeholders text) data data') :
    substitute text data = substitute text data' := by
  rw [substitute, substitute]
  refine congrArg String.ofList (List.flatMap_congr fun p hp => Piece.replaced_congr ?_)
  exact fun name hname => h name (List.mem_filterMap.2 ⟨p, hp, hname⟩)

/-- **A text whose tokens have no value** stays as it is. -/
theorem substitute_eq_self {data : TestData} {text : String}
    (h : ∀ name ∈ placeholders text, data.get? name = none) : substitute text data = text := by
  have source : ∀ p ∈ Piece.split text.toList, p.replaced data = p.source := by
    intro p mem
    cases p with
    | plain c => rfl
    | token name =>
      have unvalued := h (String.ofList name) (List.mem_filterMap.2 ⟨_, mem, rfl⟩)
      rw [Piece.replaced, unvalued]
  rw [substitute, List.flatMap_congr source, Piece.flatMap_source_split, String.ofList_toList]

/-- Without any data a text stays as it is. -/
theorem substitute_of_isEmpty {data : TestData} (h : data.isEmpty = true) (text : String) :
    substitute text data = text := by
  refine substitute_eq_self fun name _ => ?_
  rw [Dict.isEmpty, List.isEmpty_iff] at h
  rw [Dict.get?, h]
  rfl

/-! ## Steps -/

/-- The members of a list are those that it has once each. -/
theorem mem_distinct {name : String} {names : List String} :
    name ∈ distinct names ↔ name ∈ names := by
  induction names with
  | nil => rfl
  | cons first rest ih =>
    rw [distinct, List.mem_cons, List.mem_filter, ih, List.mem_cons]
    by_cases same : name = first <;> simp [same]

namespace StepRecord

/-- **The texts of a step that may hold tokens.** -/
def texts (s : StepRecord) : List String :=
  [s.input?, s.valueToAssert, s.url, s.textValue?].reduceOption

/-- A step with another text in place of each that may hold tokens. -/
def replaceTexts (s : StepRecord) (replace : String → String) : StepRecord :=
  { s with
    attributes := s.attributes.map fun a => { a with value := a.value.map replace }
    valueToAssert := s.valueToAssert.map replace
    url := s.url.map replace
    value := s.value.map fun v => match v with
      | .str text => .str (replace text)
      | v => v }

/-- The placeholders of a step are those of its texts. -/
theorem mem_placeholders {s : StepRecord} {name : String} :
    name ∈ s.placeholders ↔ ∃ text ∈ s.texts, name ∈ Playback.placeholders text := by
  rw [placeholders, mem_distinct, List.mem_flatMap, texts]
  constructor
  · rintro ⟨field, mem, hname⟩
    cases field with
    | none => exact nomatch hname
    | some text => exact ⟨text, List.reduceOption_mem_iff.2 mem, hname⟩
  · rintro ⟨text, mem, hname⟩
    exact ⟨some text, List.reduceOption_mem_iff.1 mem, hname⟩

/-- **Only the texts of a step are looked at** to replace them. -/
theorem replaceTexts_congr {s : StepRecord} {f g : String → String}
    (h : ∀ text ∈ s.texts, f text = g text) : s.replaceTexts f = s.replaceTexts g := by
  -- field by field: those that are replaced are those whose texts count
  have agree : ∀ {text : String}, some text ∈ [s.input?, s.valueToAssert, s.url, s.textValue?] →
      f text = g text := fun mem => h _ (List.reduceOption_mem_iff.2 mem)
  have attributes : (s.attributes.map fun a => { a with value := a.value.map f }) =
      s.attributes.map fun a => { a with value := a.value.map g } := by
    refine Option.map_congr fun a ha => congrArg StepAttributes.mk (Option.map_congr fun v hv => ?_)
    have input : s.input? = some v := by
      rw [input?, ha, Option.bind_some, hv]
    exact agree (by simp [input])
  have valueToAssert : s.valueToAssert.map f = s.valueToAssert.map g :=
    Option.map_congr fun v hv => agree (by simp [hv])
  have url : s.url.map f = s.url.map g := Option.map_congr fun v hv => agree (by simp [hv])
  rw [replaceTexts, replaceTexts, attributes, valueToAssert, url]
  refine congrArg (fun value => StepRecord.mk _ _ _ _ _ _ value _ _) ?_
  refine Option.map_congr fun v hv => ?_
  cases v with
  | str text =>
    have value : s.textValue? = some text := by
      rw [textValue?, hv]
      rfl
    exact congrArg Json.str (agree (by simp [value]))
  | _ => rfl

/-- A step whose texts are replaced by themselves stays as it is. -/
theorem replaceTexts_id (s : StepRecord) : s.replaceTexts (fun text => text) = s := by
  obtain ⟨index, action, selectors, attributes, type, expected, value, url, description⟩ := s
  have values : ∀ v : Json, (match v with | .str text => .str text | v => v) = v := fun v => by
    cases v <;> rfl
  simp only [replaceTexts, Option.map_id', values]

/-- **A step is substituted text by text.** Without any data that changes nothing, as the shortcut
has it. -/
theorem substitute_eq (s : StepRecord) (data : TestData) :
    s.substitute data = s.replaceTexts fun text => Playback.substitute text data := by
  rw [substitute]
  split
  · next none =>
    rw [replaceTexts_congr fun text _ => substitute_of_isEmpty none text, replaceTexts_id]
  · rfl

/-- **A step is substituted alike** by data that agree on its placeholders. -/
theorem substitute_congr {s : StepRecord} {data data' : TestData}
    (h : TestData.AgreeOn s.placeholders data data') : s.substitute data = s.substitute data' := by
  rw [substitute_eq, substitute_eq]
  refine replaceTexts_congr fun text mem => Playback.substitute_congr fun name hname => ?_
  exact h name (mem_placeholders.2 ⟨text, mem, hname⟩)

end StepRecord

end Playback
