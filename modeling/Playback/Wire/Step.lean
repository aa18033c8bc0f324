import Playback.Step.Record
import Playback.Wire.Decode

/-!
# Steps on the wire

The JSON form of steps and of what they are made of, and decoding it from any document. A step is
written with its fields in declaration order, without the optional ones it does not have.
-/

namespace Playback

namespace Action

/-- The names of all actions. -/
def members : List (String × Action) := all.map fun a => (a.name, a)

/-- An action as its name. -/
def encode (a : Action) : Json := .str a.name

/-- Reads an action. -/
def decode (origin : Origin) : Document → Wire.Result Action := Wire.choice members origin

end Action

namespace SelectorKind

/-- The names of all kinds. -/
def members : List (String × SelectorKind) := all.map fun k => (k.name, k)

/-- A kind as its name. -/
def encode (k : SelectorKind) : Json := .str k.name

/-- Reads a kind. -/
def decode (origin : Origin) : Document → Wire.Result SelectorKind := Wire.choice members origin

end SelectorKind

namespace Selector

/-- A selector as an object. -/
def encode (s : Selector) : Json := .obj [("locator", .str s.locator), ("type", .str s.type)]

/-- The fields of a selector. -/
def fields : List Wire.Field := [Wire.field "type" Wire.text, Wire.field "locator" Wire.text]

/-- Reads a selector. -/
def decode (origin : Origin) (d : Document) : Wire.Result Selector := do
  let s ← Wire.slots origin fields d
  return { type := ← s.required 0 Wire.text, locator := ← s.required 1 Wire.text }

end Selector

namespace StepAttributes

/-- Attributes as an object. -/
def encode (a : StepAttributes) : Json := Json.objOf [("value", a.value.map Json.str)]

/-- The fields of attributes. -/
def fields : List Wire.Field := [Wire.field "value" (Wire.optional Wire.text)]

/-- Reads attributes. -/
def decode (origin : Origin) (d : Document) : Wire.Result StepAttributes := do
  let s ← Wire.slots origin fields d
  return { value := ← s.optional 0 Wire.text }

end StepAttributes

namespace StepRecord

/-- **A step as an object.** -/
def encode (s : StepRecord) : Json :=
  Json.objOf [
    ("indexStep", some (.int s.indexStep.toNat)),
    ("action", some (.str s.action)),
    ("selectors", some (.arr (s.selectors.map Selector.encode))),
    ("attributes", s.attributes.map StepAttributes.encode),
    ("typeAssert", s.typeAssert.map Json.str),
    ("valueToAssert", s.valueToAssert.map Json.str),
    ("value", s.value),
    ("url", s.url.map Json.str),
    ("description", s.description.map Json.str)]

/-- The fields of a step. -/
def fields (origin : Origin) : List Wire.Field := [
  Wire.field "indexStep" Wire.word32,
  Wire.field "action" Wire.text,
  Wire.field "selectors" (Wire.listOf (Selector.decode origin)),
  Wire.field "attributes" (Wire.optional (StepAttributes.decode origin)),
  Wire.field "typeAssert" (Wire.optional Wire.text),
  Wire.field "valueToAssert" (Wire.optional Wire.text),
  Wire.field "value" (Wire.optional Wire.json),
  Wire.field "url" (Wire.optional Wire.text),
  Wire.field "description" (Wire.optional Wire.text)]

/-- **Reads a step.** -/
def decode (origin : Origin) (d : Document) : Wire.Result StepRecord := do
  let s ← Wire.slots origin (fields origin) d
  return {
    indexStep := ← s.required 0 Wire.word32
    action := ← s.required 1 Wire.text
    selectors := ← s.defaulted 2 (Wire.listOf (Selector.decode origin)) []
    attributes := ← s.optional 3 (StepAttributes.decode origin)
    typeAssert := ← s.optional 4 Wire.text
    valueToAssert := ← s.optional 5 Wire.text
    value := ← s.optional 6 Wire.json
    url := ← s.optional 7 Wire.text
    description := ← s.optional 8 Wire.text }

end StepRecord

/-- Test data as an object. -/
def TestData.encode (d : TestData) : Json := Json.ofDict Json.str d

/-- Reads test data. -/
def TestData.decode (_ : Origin) : Document → Wire.Result TestData := Wire.dictOf Wire.text

end Playback
