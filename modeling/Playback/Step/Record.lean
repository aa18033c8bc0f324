import Playback.Json.Value
import Playback.Step.Action

/-!
# Recorded steps

* `Selector` — one candidate for the element of a step;
* `StepRecord` — **one recorded interaction**, with the fields of the recorder; its action and
  the kinds of its selectors stay names, so that unknown ones survive until replay;
* `TestData` — values for the placeholders of a script.
-/

namespace Playback

/-- **Test data**: a value for each placeholder name that is supplied. -/
abbrev TestData := Dict String

/-- **A candidate locator** of a step's element. -/
structure Selector where
  /-- The name of the selector's kind, as recorded. -/
  type : String
  /-- What addresses the element. -/
  locator : String
  deriving DecidableEq, Repr, Inhabited

namespace Selector

/-- The kind of a selector, `none` if its name is unknown. -/
def kind? (s : Selector) : Option SelectorKind := SelectorKind.ofName? s.type

/-- A selector of a kind. -/
def ofKind (kind : SelectorKind) (locator : String) : Selector := ⟨kind.name, locator⟩

end Selector

/-- What the recorder captured of an element. -/
structure StepAttributes where
  /-- The text typed into an input. -/
  value : Option String := none
  deriving DecidableEq, Repr, Inhabited

/-- **A recorded interaction.** -/
structure StepRecord where
  /-- The recorder's number of the step; numbers need not be contiguous or distinct. -/
  indexStep : UInt32
  /-- The name of the action, as recorded. -/
  action : String
  /-- Candidates for the element, best first. -/
  selectors : List Selector := []
  /-- Captured attributes, if any. -/
  attributes : Option StepAttributes := none
  /-- The name of the assertion. -/
  typeAssert : Option String := none
  /-- The text that an assertion compares with. -/
  valueToAssert : Option String := none
  /-- The duration of a wait in milliseconds, as recorded. -/
  value : Option Json := none
  /-- The address that a navigation loads. -/
  url : Option String := none
  /-- A human label. -/
  description : Option String := none
  deriving Inhabited, Repr

namespace StepRecord

/-- The action of a step, `none` if its name is unknown. -/
def action? (s : StepRecord) : Option Action := Action.ofName? s.action

/-- The text to type, if one was recorded. -/
def input? (s : StepRecord) : Option String := s.attributes.bind (·.value)

/-- The label of a step in progress events: its description, or else its action. -/
def label (s : StepRecord) : String := s.description.getD s.action

/-- The first selector of a kind. -/
def firstOfKind? (s : StepRecord) (kind : SelectorKind) : Option Selector :=
  s.selectors.find? fun c => c.kind? = some kind

/-- A step that records an action and nothing else. -/
def ofAction (indexStep : UInt32) (action : Action) : StepRecord :=
  { indexStep, action := action.name }

/-- The step with one more candidate. -/
def withSelector (s : StepRecord) (kind : SelectorKind) (locator : String) : StepRecord :=
  { s with selectors := s.selectors ++ [Selector.ofKind kind locator] }

/-- The step with a text to type. -/
def withInput (s : StepRecord) (value : String) : StepRecord :=
  { s with attributes := some { value := some value } }

end StepRecord

end Playback
