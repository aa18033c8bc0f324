import Playback.Run.Handler.Basic
import Playback.Text.Blank

/-!
# Assertions

Checks a predicate of the first visible candidate of a step: its text, or one of its states.

* `AssertKind.textFailure?`, `AssertKind.stateFailure?` — why a predicate does not hold, `none` if
  it does;
* `Handler.assertion` — **the handler of assertions**.
-/

namespace Playback

/-- A text in quotation marks. -/
def quoted (s : String) : String := "\"" ++ s ++ "\""

namespace AssertKind

/-- Why a predicate on a text does not hold of the text found. Equality does not see the blanks at
the ends; a part must occur as it is. -/
def textFailure? (query expected actual : String) : AssertKind → Option String
  | equals =>
    if Text.trim actual = Text.trim expected then none
    else some ("Expected text of " ++ query ++ " to equal " ++ quoted (Text.trim expected) ++
      " but found " ++ quoted (Text.trim actual))
  | contains =>
    if Text.occursIn expected actual then none
    else some ("Expected text of " ++ query ++ " to contain " ++ quoted expected ++
      " but found " ++ quoted (Text.trim actual))
  | _ => none

/-- Why a predicate on a state does not hold of the state found. -/
def stateFailure? (query : String) (actual : ElementState) : AssertKind → Option String
  | isVisible =>
    if actual.visible then none
    else some ("Expected " ++ query ++ " to be visible but it is hidden")
  | isEnabled =>
    if actual.enabled then none
    else some ("Expected " ++ query ++ " to be enabled but it is disabled")
  | isClickable =>
    if actual.clickable then none
    else some ("Expected " ++ query ++ " to be clickable but it is covered or disabled")
  | _ => none

end AssertKind

/-- Looks at an element: what was found, and why the predicate does not hold of it. -/
def examine (kind : AssertKind) (query expected : String) : Attempt (Json × Option String) :=
  if kind.comparesText then do
    let answer ← Attempt.guard (.text query)
    let actual ← Attempt.orFault answer
    return (.str actual, kind.textFailure? query expected actual)
  else do
    let answer ← Attempt.guard (.state query)
    let actual ← Attempt.orFault answer
    return (actual.encode, kind.stateFailure? query actual)

/-- **Checks an assertion.** -/
def Handler.assertion : Handler := fun ctx step => do
  let started ← Attempt.start step
  let type := step.typeAssert.getD ""
  match AssertKind.ofName? type with
  | none => Attempt.fail step step.label started (.failed (AssertKind.unsupported type))
  | some kind =>
    if kind.comparesText && step.valueToAssert.isNone then
      throw (.invalidStep step.indexStep (kind.name ++ " assertion has no valueToAssert"))
    else do
      let expected := step.valueToAssert.getD ""
      Attempt.settle ctx.config
      match ← Attempt.resolveWithin ctx.config ctx.config.timeouts.assertMs step.selectors with
      | .notFound attempts =>
        Attempt.fail step step.label started
          (.unmatched ("No element found for " ++ kind.name ++ " assertion" ++ triedText attempts))
      | .found found => do
        let action := "Assert " ++ kind.name ++ " on " ++ found.query
        let (actual, failure) ← examine kind found.query expected
        match failure with
        | some message => Attempt.fail step action started (.failed message)
        | none =>
          Attempt.complete step action started none (some (.obj [
            ("actual", actual), ("assertion", .str kind.name), ("expected", .str expected)]))

end Playback
