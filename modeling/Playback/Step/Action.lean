/-!
# Actions and kinds of selectors

The closed vocabularies of a recording. Each has a list of all its members, their names on the
wire and the way back from a name; a name outside the vocabulary survives in a step as recorded
and is reported when the step is replayed.
-/

namespace Playback

/-- **What a step does.** -/
inductive Action where
  | navigate
  | click
  | change
  | changeWithEnter
  | wait
  | assert
  | otp
  deriving DecidableEq, Repr, Inhabited

namespace Action

/-- All actions. -/
def all : List Action := [navigate, click, change, changeWithEnter, wait, assert, otp]

/-- The name of an action in a recording. -/
def name : Action → String
  | navigate => "navigate"
  | click => "click"
  | change => "change"
  | changeWithEnter => "changeWithEnter"
  | wait => "wait"
  | assert => "assert"
  | otp => "otp"

/-- The action with a name. -/
def ofName? (s : String) : Option Action := all.find? fun a => a.name = s

/-- What is said of a name that no action has. -/
def unrecognized (s : String) : String := "unrecognized action '" ++ s ++ "'"

theorem ofName?_name (a : Action) : ofName? a.name = some a := by cases a <;> decide

theorem mem_all (a : Action) : a ∈ all := by cases a <;> decide

end Action

/-- **How a locator addresses its element.** -/
inductive SelectorKind where
  | id : SelectorKind
  | class : SelectorKind
  | xpath : SelectorKind
  | dataTestId : SelectorKind
  | tagAttributes : SelectorKind
  deriving DecidableEq, Repr, Inhabited

namespace SelectorKind

/-- All kinds of selectors. -/
def all : List SelectorKind := [.id, .class, .xpath, .dataTestId, .tagAttributes]

/-- The name of a kind in a recording. -/
def name : SelectorKind → String
  | .id => "id"
  | .class => "class"
  | .xpath => "xpath"
  | .dataTestId => "data-testid"
  | .tagAttributes => "tag-attributes"

/-- The kind with a name. -/
def ofName? (s : String) : Option SelectorKind := all.find? fun k => k.name = s

/-- What is said of a name that no kind has. -/
def unknown (s : String) : String := "unknown selector type '" ++ s ++ "'"

theorem ofName?_name (k : SelectorKind) : ofName? k.name = some k := by cases k <;> decide

end SelectorKind

/-- **What an assertion claims of an element.** -/
inductive AssertKind where
  | equals
  | contains
  | isVisible
  | isEnabled
  | isClickable
  deriving DecidableEq, Repr, Inhabited

namespace AssertKind

/-- All kinds of assertions. -/
def all : List AssertKind := [equals, contains, isVisible, isEnabled, isClickable]

/-- The name of an assertion in a recording. -/
def name : AssertKind → String
  | equals => "Equals"
  | contains => "Contains"
  | isVisible => "IsVisible"
  | isEnabled => "IsEnabled"
  | isClickable => "IsClickable"

/-- The assertion with a name. -/
def ofName? (s : String) : Option AssertKind := all.find? fun k => k.name = s

/-- What is said of a name that no assertion has. -/
def unsupported (s : String) : String := "Unsupported assertion type '" ++ s ++ "'"

/-- The assertions about an element's text need a text to compare with. -/
def comparesText : AssertKind → Bool
  | equals => true
  | contains => true
  | _ => false

end AssertKind

end Playback
