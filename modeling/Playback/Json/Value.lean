import Playback.Number.Numeral
import Playback.Dict

/-!
# JSON values

* `Json` — values with integers and binary64 numbers kept apart;
* `Json.Canonical` — **canonical values**: the fields of every object strictly sorted by name, as
  in every value that was read or made by this library;
* `Json.compact`, `Json.pretty` — their text, on one line or indented by two blanks.
-/

namespace Playback

/-- **A JSON value.** An object lists its fields in the order in which they are written. -/
inductive Json where
  | null
  | bool (value : Bool)
  | int (value : Int)
  | float (value : Binary64)
  | str (value : String)
  | arr (items : List Json)
  | obj (fields : List (String × Json))
  deriving Inhabited, Repr

namespace Json

/-! ## Access -/

/-- The field of an object, `none` for other values. -/
def field? (name : String) : Json → Option Json
  | obj fields => Dict.lookup name fields
  | _ => none

/-- The value at a path of field names; `null` where there is no such field. -/
def index (name : String) (value : Json) : Json := (value.field? name).getD null

/-- The text of a string value. -/
def str? : Json → Option String
  | str s => some s
  | _ => none

/-- Whether the value is `null`. -/
def isNull : Json → Bool
  | null => true
  | _ => false

/-- An optional value, `null` if there is none. -/
def ofOption {α : Type} (f : α → Json) : Option α → Json
  | some a => f a
  | none => null

/-- An object without the fields that are left out. -/
def objOf (fields : List (String × Option Json)) : Json :=
  obj (fields.filterMap fun f => f.2.map fun v => (f.1, v))

/-- An object made of a dictionary. -/
def ofDict {α : Type} (f : α → Json) (d : Dict α) : Json :=
  obj (d.entries.map fun e => (e.1, f e.2))

/-- A binary64 number as a value; what is not finite has no JSON form but `null`. -/
def ofFloat (x : Binary64) : Json := if x.isFinite then float x else null

/-! ## Canonical values -/

mutual

/-- **Canonical values** have strictly sorted fields at every level, and finite numbers. -/
def Canonical : Json → Prop
  | null => True
  | bool _ => True
  | int _ => True
  | float x => x.isFinite = true
  | str _ => True
  | arr items => CanonicalItems items
  | obj fields => (fields.Pairwise fun a b => a.1 < b.1) ∧ CanonicalFields fields

/-- All items are canonical. -/
def CanonicalItems : List Json → Prop
  | [] => True
  | item :: items => Canonical item ∧ CanonicalItems items

/-- All field values are canonical. -/
def CanonicalFields : List (String × Json) → Prop
  | [] => True
  | (_, value) :: fields => Canonical value ∧ CanonicalFields fields

end

/-! ## Text -/

/-- The hexadecimal digit of a number below sixteen. -/
def hexDigit (n : Nat) : Char := if n < 10 then Char.ofNat (48 + n) else Char.ofNat (87 + n)

/-- A character inside quotes: quotes, backslashes and controls are escaped. -/
def escapeChar (c : Char) : List Char :=
  if c = '"' then ['\\', '"']
  else if c = '\\' then ['\\', '\\']
  else if c = '\n' then ['\\', 'n']
  else if c = '\r' then ['\\', 'r']
  else if c = '\t' then ['\\', 't']
  else if c = '\x08' then ['\\', 'b']
  else if c = '\x0c' then ['\\', 'f']
  else if c.toNat < 32 then
    ['\\', 'u', '0', '0', hexDigit (c.toNat / 16), hexDigit (c.toNat % 16)]
  else [c]

/-- A text in quotes. -/
def quote (s : String) : List Char := '"' :: (s.toList.flatMap escapeChar ++ ['"'])

/-- The text of an integer. -/
def intChars (n : Int) : List Char :=
  if n < 0 then '-' :: digitsOf n.natAbs else digitsOf n.natAbs

mutual

/-- The characters of a value on one line, without blanks. -/
def compactChars : Json → List Char
  | null => ['n', 'u', 'l', 'l']
  | bool b => if b then ['t', 'r', 'u', 'e'] else ['f', 'a', 'l', 's', 'e']
  | int n => intChars n
  | float x => if x.isFinite then x.scientific.toList else ['n', 'u', 'l', 'l']
  | str s => quote s
  | arr items => '[' :: (compactItems items ++ [']'])
  | obj fields => '{' :: (compactFields fields ++ ['}'])

/-- Items with commas between them. -/
def compactItems : List Json → List Char
  | [] => []
  | [item] => compactChars item
  | item :: items => compactChars item ++ ',' :: compactItems items

/-- Fields with commas between them. -/
def compactFields : List (String × Json) → List Char
  | [] => []
  | [(name, value)] => quote name ++ ':' :: compactChars value
  | (name, value) :: fields =>
    quote name ++ ':' :: compactChars value ++ ',' :: compactFields fields

end

/-- **Compact text**: the value on one line without blanks. -/
def compact (value : Json) : String := String.ofList value.compactChars

/-- A line break and the blanks of an indentation level. -/
def newline (level : Nat) : List Char := '\n' :: List.replicate (2 * level) ' '

mutual

/-- The characters of a value whose inner lines are indented. -/
def prettyChars (level : Nat) : Json → List Char
  | arr [] => ['[', ']']
  | obj [] => ['{', '}']
  | arr items => '[' :: (prettyItems (level + 1) items ++ newline level ++ [']'])
  | obj fields => '{' :: (prettyFields (level + 1) fields ++ newline level ++ ['}'])
  | null => compactChars null
  | bool b => compactChars (bool b)
  | int n => compactChars (int n)
  | float x => compactChars (float x)
  | str s => compactChars (str s)

/-- Items on lines of their own. -/
def prettyItems (level : Nat) : List Json → List Char
  | [] => []
  | [item] => newline level ++ prettyChars level item
  | item :: items => newline level ++ prettyChars level item ++ ',' :: prettyItems level items

/-- Fields on lines of their own. -/
def prettyFields (level : Nat) : List (String × Json) → List Char
  | [] => []
  | [(name, value)] => newline level ++ quote name ++ ':' :: ' ' :: prettyChars level value
  | (name, value) :: fields =>
    newline level ++ quote name ++ ':' :: ' ' :: prettyChars level value ++
      ',' :: prettyFields level fields

end

/-- **Indented text**: every item and field on a line of its own. -/
def pretty (value : Json) : String := String.ofList (value.prettyChars 0)

end Json

end Playback
