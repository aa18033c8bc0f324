import Playback.Proofs.Wire.Cell
import Playback.Script.Library

/-!
# The two shapes of a script file

A script file holds a whole script or only the list of its steps, and both a script and a step may be
given as a list of their fields. No document has both shapes all the same: a list that begins with a
step does not begin with the name of a script, and a script is never an empty list.

* `StepRecord.IsIn`, `TestScript.IsIn` — **the documents of a step and of a whole script**, as
  `StepRecord.decode` and `TestScript.decode` read them;
* `TestScript.ScriptIn`, `TestScript.not_stepsIn_of_isIn` — the documents of script files, and that
  **the two shapes exclude each other**;
* `TestScript.Unambiguous`, `TestScript.SameAlone`, `TestScript.script_shapes` — **the shapes of
  script files are unambiguous**, and a list of steps is read the same in both of them.
-/

namespace Playback

open Wire

variable {origin : Origin} {d : Document}

/-! ## Steps -/

namespace StepRecord

variable {s : StepRecord}

/-- **The fields of a step** with their values. -/
def cells (origin : Origin) (s : StepRecord) : List Cell := [
  .plain "indexStep" word32 none s.indexStep,
  .plain "action" text none s.action,
  .plain "selectors" (listOf (Selector.decode origin)) (some []) s.selectors,
  .plain "attributes" (optional (StepAttributes.decode origin)) (some none) s.attributes,
  .plain "typeAssert" (optional text) (some none) s.typeAssert,
  .plain "valueToAssert" (optional text) (some none) s.valueToAssert,
  .plain "value" (optional json) (some none) s.value,
  .plain "url" (optional text) (some none) s.url,
  .plain "description" (optional text) (some none) s.description]

/-- **The document of a step.** -/
def IsIn (origin : Origin) (d : Document) (s : StepRecord) : Prop :=
  RecordIn origin (s.cells origin) d

/-- **A step is decoded from its documents**, and from no others. -/
theorem decode_eq_ok_iff : decode origin d = .ok s ↔ IsIn origin d s := by
  have nodup : ((s.cells origin).map Cell.name).Nodup := by
    change ["indexStep", "action", "selectors", "attributes", "typeAssert", "valueToAssert",
      "value", "url", "description"].Nodup
    decide
  refine recordIn_iff nodup fun filled => ?_
  simp only [bind_eq_ok]
  constructor
  · rintro ⟨_, indexStep, _, action, _, selectors, _, attributes, _, typeAssert, _, valueToAssert,
      _, value, _, url, _, description, same⟩
    obtain rfl := Except.ok.inj same
    exact ⟨indexStep, action, selectors, attributes, typeAssert, valueToAssert, value, url,
      description, trivial⟩
  · rintro ⟨indexStep, action, selectors, attributes, typeAssert, valueToAssert, value, url,
      description, -⟩
    exact ⟨_, indexStep, _, action, _, selectors, _, attributes, _, typeAssert, _, valueToAssert,
      _, value, _, url, _, description, rfl⟩

/-- A step is never given as a text. -/
theorem not_isIn_str (name : String) : ¬ IsIn origin (.str name) s := by
  intro h
  cases h.shape

/-- **A waiting time that is `null`** is all that does not come back of a step. -/
theorem settled_eq_iff : s.settled = s ↔ s.value ≠ some .null := by
  constructor
  · intro same null
    have value : s.value = s.value.filter fun v => !v.isNull :=
      (congrArg StepRecord.value same).symm
    rw [null] at value
    cases value
  · intro spoken
    cases value : s.value with
    | none => rw [settled, value, Option.filter_none, ← value]
    | some v =>
      have ne : v ≠ .null := fun null => spoken (null ▸ value)
      rw [settled, value, Option.filter_some, Json.isNull_eq_false ne, ← value]
      rfl

end StepRecord

/-- **The documents of a list of steps.** -/
def StepsIn (origin : Origin) (d : Document) (steps : List StepRecord) : Prop :=
  ∃ items, d = .list items ∧ List.Forall₂ (StepRecord.IsIn origin) items steps

/-- A list of steps is decoded from its documents, and from no others. -/
theorem stepsIn_iff (origin : Origin) (d : Document) (steps : List StepRecord) :
    listOf (StepRecord.decode origin) d = .ok steps ↔ StepsIn origin d steps :=
  listOf_eq_ok_iff fun _ _ => StepRecord.decode_eq_ok_iff

/-! ## Scripts -/

namespace TestScript

variable {t : TestScript} {steps : List StepRecord}

/-- **The fields of a script** with their values. -/
def cells (origin : Origin) (t : TestScript) : List Cell := [
  .plain "name" text (some "") t.name,
  .plain "description" text (some "") t.description,
  .plain "startUrl" (optional text) (some none) t.startUrl,
  ⟨"steps", stepsIn_iff origin, none, t.steps⟩,
  .plain "dataScenarios" (dictOf (TestData.decode origin)) (some Dict.empty) t.dataScenarios]

/-- **The document of a whole script.** -/
def IsIn (origin : Origin) (d : Document) (t : TestScript) : Prop :=
  RecordIn origin (t.cells origin) d

/-- The fields of a script have different names. -/
theorem nodup_cells (origin : Origin) (t : TestScript) : ((t.cells origin).map Cell.name).Nodup := by
  change ["name", "description", "startUrl", "steps", "dataScenarios"].Nodup
  decide

/-- **A whole script is decoded from its documents**, and from no others. -/
theorem decode_eq_ok_iff : decode origin d = .ok t ↔ IsIn origin d t := by
  refine recordIn_iff (nodup_cells origin t) fun filled => ?_
  simp only [bind_eq_ok]
  constructor
  · rintro ⟨_, name, _, description, _, startUrl, _, steps, _, dataScenarios, same⟩
    obtain rfl := Except.ok.inj same
    exact ⟨name, description, startUrl, steps, dataScenarios, trivial⟩
  · rintro ⟨name, description, startUrl, steps, dataScenarios, -⟩
    exact ⟨_, name, _, description, _, startUrl, _, steps, _, dataScenarios, rfl⟩

/-- **A script without a name** is decoded from the documents of its steps. -/
theorem decodeSteps_eq_ok_iff :
    decodeSteps origin d = .ok t ↔ ∃ steps, StepsIn origin d steps ∧ t = { steps } := by
  rw [decodeSteps, bind_eq_ok]
  refine exists_congr fun steps => ?_
  rw [stepsIn_iff]
  refine and_congr_right' ⟨fun same => (Except.ok.inj same).symm, ?_⟩
  rintro rfl
  rfl

/-! ## Script files -/

/-- **The document of a script file**: of a whole script, or of the list of its steps. -/
inductive ScriptIn (d : Document) (t : TestScript) : Prop where
  | whole (script : IsIn .buffered d t)
  | alone {steps : List StepRecord} (listed : StepsIn .buffered d steps) (unnamed : t = { steps })

/-- **A list of steps is no script**: an empty list gives no steps, and where the first item is a
step, no text is given for the name. -/
theorem not_stepsIn_of_isIn (h : IsIn origin d t) : ¬ StepsIn origin d steps := by
  rintro ⟨items, rfl, each⟩
  have given := h.given
  simp only [cells, List.forall_mem_cons] at given
  obtain ⟨-, -, -, needed, -⟩ := given
  cases each with
  | nil =>
    rcases needed with ⟨gives, -⟩ | ⟨-, default_eq⟩
    · cases gives with
      | item item_eq => cases item_eq
    · cases default_eq
  | @cons step _ items _ first =>
    -- the first of the fields is the name, so that the first item is given for it
    have name : Reads text step t.name :=
      h.reads (nodup_cells origin t) List.mem_cons_self (.item (i := 0) rfl rfl rfl)
    cases step with
    | str text => exact StepRecord.not_isIn_str text first
    | null | bool | int | float | list | map | damaged | unreadable => cases name

/-- **A script file is read from its documents**, and from no others. -/
theorem ofDocument?_eq_some_iff : ofDocument? d = some t ↔ ScriptIn d t := by
  rw [ofDocument?]
  cases decoded : decode .buffered d with
  | ok whole =>
    have script : IsIn .buffered d whole := decode_eq_ok_iff.1 decoded
    constructor
    · rintro ⟨⟩
      exact .whole script
    · rintro (same | ⟨listed, -⟩)
      · exact congrArg some (Except.ok.inj (decoded.symm.trans (decode_eq_ok_iff.2 same)))
      · exact absurd listed (not_stepsIn_of_isIn script)
  | error fault =>
    -- what is no whole script may still be a list of steps
    have alone : (decodeSteps .buffered d).toOption = some t ↔ decodeSteps .buffered d = .ok t := by
      cases decodeSteps .buffered d <;> simp [Except.toOption]
    refine alone.trans (decodeSteps_eq_ok_iff.trans ?_)
    constructor
    · rintro ⟨steps, listed, unnamed⟩
      exact .alone listed unnamed
    · rintro (same | ⟨listed, unnamed⟩)
      · cases decoded.symm.trans (decode_eq_ok_iff.2 same)
      · exact ⟨_, listed, unnamed⟩

/-- **The order in which the shapes are tried does not matter.** -/
theorem ofDocument?_swap (d : Document) :
    (decodeSteps .buffered d).toOption.or (decode .buffered d).toOption = ofDocument? d := by
  rw [ofDocument?]
  cases decoded : decode .buffered d with
  | error fault => exact Option.or_none
  | ok whole =>
    cases listed : decodeSteps .buffered d with
    | error fault => rfl
    | ok script =>
      -- only a document of both shapes could be read in two ways
      obtain ⟨steps, each, -⟩ := decodeSteps_eq_ok_iff.1 listed
      exact absurd each (not_stepsIn_of_isIn (decode_eq_ok_iff.1 decoded))

/-- **A text is read as a script file** if it is one document of a script file. -/
theorem parse_eq_ok_iff {text : String} : parse text = .ok t ↔
    ∃ d, (Yaml.load text).document = some d ∧ ScriptIn d t ∧
      (Yaml.load text).isSingle = true := by
  simp only [parse, ← ofDocument?_eq_some_iff]
  generalize Yaml.load text = loaded
  cases loaded.document with
  | none => simp
  | some d =>
    cases read : ofDocument? d with
    | none => simp [read]
    | some script => cases loaded.isSingle <;> simp [read]

/-- **A text does not fit** if its document has neither shape. -/
theorem parse_eq_unfit_iff {text : String} : parse text = .error .unfit ↔
    ∃ d, (Yaml.load text).document = some d ∧ ∀ t, ¬ ScriptIn d t := by
  simp only [parse, ← ofDocument?_eq_some_iff]
  generalize Yaml.load text = loaded
  cases loaded.document with
  | none => simp
  | some d =>
    cases read : ofDocument? d with
    | none => simp [read]
    | some script => cases loaded.isSingle <;> simp [read]

/-! ## The same steps in both shapes -/

/-- A list of steps is read as it stands, -/
theorem ofDocument?_list {items : List Document}
    (each : List.Forall₂ (StepRecord.IsIn .buffered) items steps) :
    ofDocument? (.list items) = some { steps } :=
  ofDocument?_eq_some_iff.2 (.alone ⟨items, rfl, each⟩ rfl)

/-- and the same when it is the only field of a script. -/
theorem ofDocument?_map {items : List Document}
    (each : List.Forall₂ (StepRecord.IsIn .buffered) items steps) :
    ofDocument? (.map [(.str "steps", .list items)]) = some { steps } := by
  have others : ∀ {name : String}, name ≠ "steps" → ∀ part,
      ¬ Gives ((cells .buffered { steps }).map Cell.field) name part
        (.map [(.str "steps", .list items)]) :=
    fun other part gives => other (gives_singleton_iff.1 gives).1
  refine ofDocument?_eq_some_iff.2 (.whole ⟨?shape, ?given⟩)
  case shape =>
    exact .mapping (List.forall_mem_singleton.2 (.text "steps")) (List.pairwise_singleton _ _)
      (List.forall_mem_singleton.2 fun damaged => Document.noConfusion damaged)
  case given =>
    simp only [cells, List.forall_mem_cons]
    exact ⟨.left (others (by decide)) rfl, .left (others (by decide)) rfl,
      .left (others (by decide)) rfl, .read (gives_singleton_iff.2 ⟨rfl, rfl⟩) ⟨items, rfl, each⟩,
      .left (others (by decide)) rfl, fun _ mem => absurd mem List.not_mem_nil⟩

/-- What is written for steps are documents of them as they come back. -/
theorem forall₂_isIn_encode (origin : Origin) (canonical : ∀ s ∈ steps, s.IsCanonical) :
    List.Forall₂ (StepRecord.IsIn origin)
      (Document.ofJsonItems (steps.map StepRecord.encode)) (steps.map StepRecord.settled) := by
  rw [Document.ofJsonItems_eq_map, List.map_map, List.forall₂_map_left_iff,
    List.forall₂_map_right_iff, List.forall₂_same]
  intro s mem
  exact StepRecord.decode_eq_ok_iff.1 (StepRecord.decode_encode (canonical s mem) origin)

/-- All steps come back as they are if none has a waiting time that is `null`. -/
theorem map_settled_eq_iff :
    steps.map StepRecord.settled = steps ↔ ∀ s ∈ steps, s.value ≠ some .null := by
  have each : steps.map StepRecord.settled = steps.map id ↔ ∀ s ∈ steps, s.settled = id s :=
    List.map_inj_left
  rw [List.map_id] at each
  exact each.trans (forall₂_congr fun _ _ => StepRecord.settled_eq_iff)

/-- **A document is a script file in one way at most**: it is read as what it is, it does not have
both shapes, and so it may be tried for either one first. -/
structure Unambiguous (d : Document) : Prop where
  read_iff : ∀ t, ofDocument? d = some t ↔ ScriptIn d t
  apart : ∀ t steps, IsIn .buffered d t → ¬ StepsIn .buffered d steps
  unordered : (decodeSteps .buffered d).toOption.or (decode .buffered d).toOption = ofDocument? d

/-- **A text is read as its document**, if there is just one. -/
structure ReadAlike (text : String) : Prop where
  ok_iff : ∀ t, parse text = .ok t ↔ ∃ d, (Yaml.load text).document = some d ∧ ScriptIn d t ∧
    (Yaml.load text).isSingle = true
  unfit_iff : parse text = .error .unfit ↔
    ∃ d, (Yaml.load text).document = some d ∧ ∀ t, ¬ ScriptIn d t

/-- **Steps are read the same in both shapes**, alone and as the only field of a script, in whatever
documents they are given. Written ones are read as they come back, which is as they are but for
waiting times that are `null`. -/
structure SameAlone (steps : List StepRecord) : Prop where
  given : ∀ items, List.Forall₂ (StepRecord.IsIn .buffered) items steps →
    ofDocument? (.list items) = some { steps } ∧
    ofDocument? (.map [(.str "steps", .list items)]) = some { steps }
  written : (∀ s ∈ steps, s.IsCanonical) →
    ofDocument? (Document.ofJson (.arr (steps.map StepRecord.encode))) =
      some { steps := steps.map StepRecord.settled } ∧
    ofDocument? (Document.ofJson (.obj [("steps", .arr (steps.map StepRecord.encode))])) =
      some { steps := steps.map StepRecord.settled }
  settled_iff : steps.map StepRecord.settled = steps ↔ ∀ s ∈ steps, s.value ≠ some .null

/-- **The shapes of script files are unambiguous**, for every document, every text and every list of
steps. -/
theorem script_shapes :
    (∀ d, Unambiguous d) ∧ (∀ text, ReadAlike text) ∧ ∀ steps, SameAlone steps := by
  refine ⟨fun d => ?document, fun text => ?text, fun steps => ?steps⟩
  case document =>
    exact ⟨fun _ => ofDocument?_eq_some_iff, fun _ _ => not_stepsIn_of_isIn, ofDocument?_swap d⟩
  case text => exact ⟨fun _ => parse_eq_ok_iff, parse_eq_unfit_iff⟩
  case steps =>
    refine ⟨fun _ each => ⟨ofDocument?_list each, ofDocument?_map each⟩, fun canonical => ?_,
      map_settled_eq_iff⟩
    have each := forall₂_isIn_encode .buffered canonical
    exact ⟨ofDocument?_list each, ofDocument?_map each⟩

/-- **A waiting time that is `null` is lost**: the list of such a step is not read as the step. -/
theorem ofDocument?_null_ne :
    ofDocument? (Document.ofJson (.arr
      [StepRecord.encode { indexStep := 1, action := "wait", value := some .null }])) ≠
      some { steps := [{ indexStep := 1, action := "wait", value := some .null }] } := by
  have canonical : ∀ s ∈ [({ indexStep := 1, action := "wait", value := some .null } : StepRecord)],
      s.IsCanonical := by
    rintro s mem v same
    obtain rfl := List.mem_singleton.1 mem
    obtain rfl := Option.some.inj same
    trivial
  have read := ofDocument?_list (forall₂_isIn_encode .buffered canonical)
  intro same
  have steps := congrArg TestScript.steps (Option.some.inj (read.symm.trans same))
  cases congrArg StepRecord.value (List.cons.inj steps).1

end TestScript

end Playback
