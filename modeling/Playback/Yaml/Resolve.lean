import Playback.Document

/-!
# What a scalar stands for

A plain scalar without a tag is `null`, a truth value, a number or a text, by its form; a quoted
scalar is a text. The tags of the core schema ask for one of these kinds, and fail if the text has
no such form. Numbers of more than 64 but at most 128 bits have no place in a document.

* `integer?` — whole numbers, in base 10, 16, 8 or 2; digits after a leading zero are no number;
* `real?` — binary64 numbers, infinities and what is no number;
* `resolve` — the document of a scalar.
-/

namespace Playback.Yaml

/-- The text without a leading string. -/
def afterStart? (start : List Char) (text : List Char) : Option (List Char) :=
  if start.isPrefixOf text then some (text.drop start.length) else none

/-- The forms of `null`. -/
def isNullForm (s : String) : Bool := ["null", "Null", "NULL", "~"].contains s

/-- The truth value that a text is a form of. -/
def boolean? (s : String) : Option Bool :=
  if ["true", "True", "TRUE"].contains s then some true
  else if ["false", "False", "FALSE"].contains s then some false
  else none

/-- Whether a sign is in front. -/
def hasSign (text : List Char) : Bool :=
  match text with
  | c :: _ => c == '+' || c == '-'
  | [] => false

/-- Digits after a leading zero, which are a text. -/
def isZeroLed (text : List Char) : Bool :=
  let digits := if hasSign text then text.drop 1 else text
  match digits with
  | '0' :: d :: ds => (d :: ds).all isDigit
  | _ => false

/-- The marks of the bases other than ten. -/
def bases : List (List Char × Nat) := [(['0', 'x'], 16), (['0', 'o'], 8), (['0', 'b'], 2)]

/-- A whole number without a minus sign, below a bound. -/
def natural? (bound : Nat) (text : List Char) : Option Nat :=
  let body := if text.head? = some '+' then text.drop 1 else text
  let fits (n : Option Nat) : Option Nat := n.filter fun n => decide (n < bound)
  let marked := bases.findSome? fun (mark, base) =>
    (afterStart? mark body).map fun digits => (hasSign digits, fits (natInBase? base digits))
  match marked with
  | some (true, _) => none
  | some (false, some n) => some n
  | _ =>
    if hasSign body || isZeroLed text then none else fits (natInBase? 10 body)

/-- A whole number with a minus sign, not below a bound. -/
def negative? (bound : Nat) (text : List Char) : Option Int :=
  let fits (n : Option Nat) : Option Int :=
    (n.filter fun n => decide (n ≤ bound)).map fun n => -(n : Int)
  let marked := bases.findSome? fun (mark, base) =>
    (afterStart? ('-' :: mark) text).bind fun digits => fits (natInBase? base digits)
  match marked with
  | some n => some n
  | none =>
    if isZeroLed text then none
    else (afterStart? ['-'] text).bind fun digits => fits (natInBase? 10 digits)

/-- A whole number: `some none` if it has more than 64 but at most 128 bits. -/
def integer? (text : List Char) : Option (Option Int) :=
  match natural? (Nat.pow 2 64) text with
  | some n => some (some n)
  | none =>
    match negative? (Nat.pow 2 63) text with
    | some n => some (some n)
    | none =>
      if (natural? (Nat.pow 2 128) text).isSome || (negative? (Nat.pow 2 127) text).isSome then
        some none
      else none

/-- A binary64 number; a numeral beyond all bounds is a text. -/
def real? (text : List Char) : Option Binary64 :=
  let s := String.ofList text
  let body := if text.head? = some '+' then text.drop 1 else text
  if text.head? = some '+' && hasSign body then none
  else if [".inf", ".Inf", ".INF"].contains (String.ofList body) then
    some (Binary64.infinity false)
  else if ["-.inf", "-.Inf", "-.INF"].contains s then some (Binary64.infinity true)
  else if [".nan", ".NaN", ".NAN"].contains s then some (Binary64.nan false)
  else (Binary64.ofText? body).filter Binary64.isFinite

/-- The document of a plain scalar without a tag. -/
def resolvePlain (s : String) : Option Document :=
  if s.isEmpty || isNullForm s then some .null
  else match boolean? s with
    | some b => some (.bool b)
    | none =>
      match integer? s.toList with
      | some (some n) => some (.int n)
      | some none => none
      | none =>
        if isZeroLed s.toList then some (.str s)
        else match real? s.toList with
          | some x => some (.float x)
          | none => some (.str s)

/-- The name of a tag of the core schema. -/
def coreTag (name : String) : String := "tag:yaml.org,2002:" ++ name

/-- **The document of a scalar**, `none` if its tag does not allow its text. -/
def resolve (tag : Option String) (s : String) (isPlain : Bool) : Option Document :=
  match tag with
  | none => if isPlain then resolvePlain s else some (.str s)
  | some t =>
    if t = coreTag "bool" then (boolean? s).map Document.bool
    else if t = coreTag "int" then
      match integer? s.toList with
      | some (some n) => some (.int n)
      | _ => none
    else if t = coreTag "float" then (real? s.toList).map Document.float
    else if t = coreTag "null" then if isNullForm s then some .null else none
    else some (.str s)

end Playback.Yaml
